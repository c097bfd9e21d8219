import Mathlib.Algebra.Group.Nat.Defs
import Mathlib.Data.Nat.Basic
import Moxui.Lib.Retry

set_option autoImplicit false

namespace Moxui.Webhook

open Retry (Event alternating calls)

section Delays

-- `1 << (attempt - 1)` in a `u64`. A release build takes the shift modulo 64; a build with checks panics there.
def retryDelay (attempt : Nat) : UInt64 := 1 <<< UInt64.ofNat (attempt - 1)

theorem retry_delay_wraps (attempt : Nat) : (retryDelay attempt).toNat = 2 ^ ((attempt - 1) % 64) := by
  have small : (attempt - 1) % 64 < 64 := Nat.mod_lt _ (by decide)
  have shift : (attempt - 1) % 2 ^ 64 % 64 = (attempt - 1) % 64 := Nat.mod_mod_of_dvd _ (by decide)
  have fits : 2 ^ ((attempt - 1) % 64) < 2 ^ 64 := Nat.pow_lt_pow_right (by decide) small
  rw [retryDelay, UInt64.toNat_shiftLeft, UInt64.toNat_ofNat', shift]
  rw [UInt64.toNat_one, Nat.one_shiftLeft, Nat.mod_eq_of_lt fits]

theorem retry_delay_exact_iff (attempt : Nat) : (retryDelay attempt).toNat = 2 ^ (attempt - 1) ↔ attempt ≤ 64 := by
  rw [retry_delay_wraps]
  constructor
  · intro exact
    have same := Nat.pow_right_injective (Nat.le_refl 2) exact
    have small : (attempt - 1) % 64 < 64 := Nat.mod_lt _ (by decide)
    omega
  · intro bounded
    rw [Nat.mod_eq_of_lt (by omega)]

end Delays

section Attempts

variable (succeeds : Nat → Bool)

-- The attempts of `deliver_with_retry`, with the seconds it sleeps before each of them but the first.
def retryFrom : List Nat → List (Event Nat)
  | [] => []
  | attempt :: later =>
      (if attempt > 0 then [Event.slept (retryDelay attempt).toNat] else []) ++
        .called attempt :: (if succeeds attempt then [] else retryFrom later)

def retryEvents (maxRetries : UInt32) : List (Event Nat) :=
  retryFrom succeeds (List.range (maxRetries.toNat + 1))

theorem retry_from_runs (budget attempt : Nat) :
    retryFrom succeeds (List.range' (attempt + 1) budget) =
      if 0 < budget then
        .slept (retryDelay (attempt + 1)).toNat ::
          alternating (fun retry => (retryDelay retry).toNat) (calls succeeds budget (attempt + 1)) (attempt + 1)
      else [] := by
  induction budget generalizing attempt with
  | zero => rfl
  | succ budget ih =>
      rw [List.range'_succ, retryFrom, if_pos (Nat.succ_pos attempt), if_pos (Nat.succ_pos budget)]
      cases outcome : succeeds (attempt + 1) with
      | true =>
          rw [Retry.calls_settled succeeds budget (attempt + 1) outcome, if_pos rfl]
          rfl
      | false =>
          rw [Retry.calls_unsettled succeeds budget (attempt + 1) outcome, if_neg (by decide), ih (attempt + 1)]
          by_cases more : 0 < budget
          · rw [if_pos more, Retry.alternating_succ _ _ _ (Retry.calls_pos succeeds budget _ more)]
            rfl
          · have empty : budget = 0 := by omega
            subst empty
            rfl

theorem retry_events (maxRetries : UInt32) :
    retryEvents succeeds maxRetries =
      alternating (fun retry => (retryDelay retry).toNat) (calls succeeds (maxRetries.toNat + 1) 0) 0 := by
  rw [retryEvents, List.range_eq_range', List.range'_succ, retryFrom, if_neg (Nat.lt_irrefl 0), List.nil_append,
    retry_from_runs succeeds maxRetries.toNat 0]
  cases outcome : succeeds 0 with
  | true =>
      rw [Retry.calls_settled succeeds _ 0 outcome, if_pos rfl]
      rfl
  | false =>
      rw [Retry.calls_unsettled succeeds _ 0 outcome, if_neg (by decide)]
      by_cases more : 0 < maxRetries.toNat
      · rw [if_pos more, Retry.alternating_succ _ _ _ (Retry.calls_pos succeeds _ _ more)]
      · have empty : maxRetries.toNat = 0 := by omega
        rw [empty]
        rfl

def attempted (events : List (Event Nat)) : List Nat := events.filterMap Event.attempt?

theorem retry_events_attempted (maxRetries : UInt32) :
    attempted (retryEvents succeeds maxRetries) = List.range' 0 (calls succeeds (maxRetries.toNat + 1) 0) := by
  rw [retry_events, attempted, Retry.alternating_called]

end Attempts

-- What the comment on the function promises of its attempts and delays.
structure RetriedAsDescribed (maxRetries : UInt32) (succeeds : Nat → Bool) : Prop where
  attempts_bounded : (attempted (retryEvents succeeds maxRetries)).length ≤ maxRetries.toNat + 1
  stops_at_success : ∀ first, succeeds first = true → (∀ earlier < first, succeeds earlier = false) →
    attempted (retryEvents succeeds maxRetries) = List.range (min (first + 1) (maxRetries.toNat + 1))
  waits : retryEvents succeeds maxRetries =
    alternating (fun retry => 2 ^ (retry - 1)) (attempted (retryEvents succeeds maxRetries)).length 0
  no_overflow : ∀ retry, 1 ≤ retry → retry ≤ maxRetries.toNat → (retryDelay retry).toNat = 2 ^ (retry - 1)

section Exactly

variable (maxRetries : UInt32) (succeeds : Nat → Bool)

theorem attempts_bounded : (attempted (retryEvents succeeds maxRetries)).length ≤ maxRetries.toNat + 1 := by
  rw [retry_events_attempted, List.length_range']
  exact Retry.calls_le succeeds _ 0

theorem stops_at_success (first : Nat) (success : succeeds first = true)
    (failed : ∀ earlier < first, succeeds earlier = false) :
    attempted (retryEvents succeeds maxRetries) = List.range (min (first + 1) (maxRetries.toNat + 1)) := by
  have count : calls succeeds (maxRetries.toNat + 1) 0 = min (first + 1) (maxRetries.toNat + 1) := by
    apply Retry.calls_first
    · rw [Nat.zero_add]
      exact success
    · intro earlier before
      rw [Nat.zero_add]
      exact failed earlier before
  rw [retry_events_attempted, count, List.range_eq_range']

theorem waits_while_exact (bounded : maxRetries ≤ 64) :
    retryEvents succeeds maxRetries =
      alternating (fun retry => 2 ^ (retry - 1)) (attempted (retryEvents succeeds maxRetries)).length 0 := by
  have limit : maxRetries.toNat ≤ 64 := UInt32.le_iff_toNat_le.mp bounded
  have count := Retry.calls_le succeeds (maxRetries.toNat + 1) 0
  rw [retry_events_attempted, List.length_range', retry_events]
  apply Retry.alternating_congr
  intro retry _after within
  exact (retry_delay_exact_iff retry).mpr (by omega)

theorem retried_as_described_iff : RetriedAsDescribed maxRetries succeeds ↔ maxRetries ≤ 64 := by
  constructor
  · intro described
    by_contra beyond
    have tooMany : ¬ maxRetries.toNat ≤ 64 := fun bounded => beyond (UInt32.le_iff_toNat_le.mpr bounded)
    have exact := described.no_overflow 65 (by decide) (by omega)
    exact absurd ((retry_delay_exact_iff 65).mp exact) (by decide)
  · intro bounded
    refine ⟨attempts_bounded maxRetries succeeds, stops_at_success maxRetries succeeds,
      waits_while_exact maxRetries succeeds bounded, ?_⟩
    intro retry _first within
    have limit : maxRetries.toNat ≤ 64 := UInt32.le_iff_toNat_le.mp bounded
    exact (retry_delay_exact_iff retry).mpr (by omega)

end Exactly

-- Of 65 retries the last one waits a second, where it should wait 2^64 of them.
theorem last_of_65_retries : retryDelay 65 = 1 ∧ ¬ RetriedAsDescribed 65 (fun _ => false) := by
  refine ⟨by decide, ?_⟩
  intro described
  have exact := described.no_overflow 65 (by decide) (by decide)
  exact absurd ((retry_delay_exact_iff 65).mp exact) (by decide)

end Moxui.Webhook
