import Mathlib.Data.List.Basic

set_option autoImplicit false

-- A loop that calls something again until a call settles it, at most a number of times, and
-- sleeps between one call and the next.
namespace Retry

section Events

variable {δ : Type}

inductive Event (δ : Type) where
  | called (attempt : Nat)
  | slept (delay : δ)
deriving DecidableEq, Repr

def Event.attempt? : Event δ → Option Nat
  | .called attempt => some attempt
  | .slept _ => none

-- The calls from `attempt` on, with one sleep between each and the next: `delay retry` is slept before the call `retry`.
def alternating (delay : Nat → δ) : Nat → Nat → List (Event δ)
  | 0, _ => []
  | 1, attempt => [.called attempt]
  | calls + 2, attempt =>
      .called attempt :: .slept (delay (attempt + 1)) :: alternating delay (calls + 1) (attempt + 1)

theorem alternating_succ (delay : Nat → δ) (calls attempt : Nat) (more : 0 < calls) :
    alternating delay (calls + 1) attempt =
      .called attempt :: .slept (delay (attempt + 1)) :: alternating delay calls (attempt + 1) := by
  cases calls with
  | zero => omega
  | succ calls => rfl

theorem alternating_called (delay : Nat → δ) (calls attempt : Nat) :
    (alternating delay calls attempt).filterMap Event.attempt? = List.range' attempt calls := by
  induction calls generalizing attempt with
  | zero => rfl
  | succ calls ih =>
      by_cases more : 0 < calls
      · rw [alternating_succ delay calls attempt more, List.range'_succ]
        simp only [List.filterMap_cons, Event.attempt?]
        rw [ih (attempt + 1)]
      · have none : calls = 0 := by omega
        subst none
        rfl

theorem alternating_slept (delay : Nat → δ) (calls attempt : Nat) (slept : δ)
    (member : Event.slept slept ∈ alternating delay calls attempt) :
    ∃ retry, attempt < retry ∧ retry < attempt + calls ∧ slept = delay retry := by
  induction calls generalizing attempt with
  | zero => cases member
  | succ calls ih =>
      by_cases more : 0 < calls
      · rw [alternating_succ delay calls attempt more] at member
        rcases List.mem_cons.mp member with called | rest
        · cases called
        · rcases List.mem_cons.mp rest with here | later
          · cases here
            exact ⟨attempt + 1, by omega, by omega, rfl⟩
          · obtain ⟨retry, after, within, same⟩ := ih (attempt + 1) later
            exact ⟨retry, by omega, by omega, same⟩
      · have none : calls = 0 := by omega
        subst none
        cases List.mem_singleton.mp member

theorem alternating_congr (delay other : Nat → δ) (calls attempt : Nat)
    (same : ∀ retry, attempt < retry → retry < attempt + calls → delay retry = other retry) :
    alternating delay calls attempt = alternating other calls attempt := by
  induction calls generalizing attempt with
  | zero => rfl
  | succ calls ih =>
      by_cases more : 0 < calls
      · rw [alternating_succ delay calls attempt more, alternating_succ other calls attempt more,
          same (attempt + 1) (by omega) (by omega)]
        rw [ih (attempt + 1) fun retry after within => same retry (by omega) (by omega)]
      · have none : calls = 0 := by omega
        subst none
        rfl

end Events

section Calls

variable (settles : Nat → Bool)

def calls : Nat → Nat → Nat
  | 0, _ => 0
  | budget + 1, attempt => if settles attempt then 1 else calls budget (attempt + 1) + 1

theorem calls_settled (budget attempt : Nat) (settled : settles attempt = true) :
    calls settles (budget + 1) attempt = 1 := by
  rw [calls, if_pos settled]

theorem calls_unsettled (budget attempt : Nat) (unsettled : settles attempt = false) :
    calls settles (budget + 1) attempt = calls settles budget (attempt + 1) + 1 := by
  rw [calls, unsettled, if_neg (by decide)]

theorem calls_le (budget attempt : Nat) : calls settles budget attempt ≤ budget := by
  induction budget generalizing attempt with
  | zero => exact Nat.le_refl 0
  | succ budget ih =>
      have rest := ih (attempt + 1)
      rw [calls]
      split <;> omega

theorem calls_pos (budget attempt : Nat) (some : 0 < budget) : 0 < calls settles budget attempt := by
  cases budget with
  | zero => omega
  | succ budget =>
      rw [calls]
      split <;> omega

theorem calls_first (budget attempt before : Nat) (settled : settles (attempt + before) = true)
    (first : ∀ earlier < before, settles (attempt + earlier) = false) :
    calls settles budget attempt = min (before + 1) budget := by
  induction budget generalizing attempt before with
  | zero => exact (Nat.min_zero (before + 1)).symm
  | succ budget ih =>
      cases before with
      | zero =>
          rw [calls_settled settles budget attempt settled]
          omega
      | succ before =>
          have shifted (step : Nat) : attempt + 1 + step = attempt + (step + 1) := by omega
          have rest := ih (attempt + 1) before (by rw [shifted]; exact settled) (fun earlier under => by
            rw [shifted]
            exact first (earlier + 1) (by omega))
          rw [calls_unsettled settles budget attempt (first 0 (by omega)), rest]
          omega

theorem calls_none (budget attempt : Nat) (never : ∀ step < budget, settles (attempt + step) = false) :
    calls settles budget attempt = budget := by
  induction budget generalizing attempt with
  | zero => rfl
  | succ budget ih =>
      rw [calls_unsettled settles budget attempt (never 0 (by omega))]
      rw [ih (attempt + 1) fun step under => by
        have shifted : attempt + 1 + step = attempt + (step + 1) := by omega
        rw [shifted]
        exact never (step + 1) (by omega)]

end Calls

end Retry
