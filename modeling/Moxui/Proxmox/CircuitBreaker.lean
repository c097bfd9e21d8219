import Mathlib.Data.UInt

set_option autoImplicit false

namespace Moxui.Proxmox

inductive CircuitState where
  | closed
  | opened
  | halfOpen
deriving DecidableEq, Repr

-- Times are in seconds since the epoch; an `openedAt` of 0 stands for never.
structure CircuitBreaker where
  failureThreshold : UInt32
  cooldown : UInt64
  failureCount : UInt32
  openedAt : UInt64
deriving DecidableEq, Repr

namespace CircuitBreaker

def new (failureThreshold : UInt32) (cooldown : UInt64) : CircuitBreaker :=
  { failureThreshold := failureThreshold, cooldown := cooldown, failureCount := 0, openedAt := 0 }

def standard : CircuitBreaker :=
  new 5 30

-- The subtraction wraps when the clock has gone back.
def state (now : UInt64) (breaker : CircuitBreaker) : CircuitState :=
  if breaker.openedAt = 0 then .closed
  else if now - breaker.openedAt ≥ breaker.cooldown then .halfOpen
  else .opened

def allowRequest (now : UInt64) (breaker : CircuitBreaker) : Bool :=
  match breaker.state now with
  | .closed | .halfOpen => true
  | .opened => false

def recordSuccess (breaker : CircuitBreaker) : CircuitBreaker :=
  { breaker with failureCount := 0, openedAt := 0 }

def recordFailure (now : UInt64) (breaker : CircuitBreaker) : CircuitBreaker :=
  let count := breaker.failureCount + 1
  { breaker with
    failureCount := count
    openedAt := if count ≥ breaker.failureThreshold then now else breaker.openedAt }

theorem allow_request_iff (now : UInt64) (breaker : CircuitBreaker) :
    breaker.allowRequest now = true ↔ breaker.state now ≠ .opened := by
  unfold allowRequest
  cases breaker.state now <;> simp

theorem state_opened_iff (now : UInt64) (breaker : CircuitBreaker) :
    breaker.state now = .opened ↔ breaker.openedAt ≠ 0 ∧ now - breaker.openedAt < breaker.cooldown := by
  unfold state
  by_cases never : breaker.openedAt = 0
  · simp [never]
  · by_cases cooled : now - breaker.openedAt ≥ breaker.cooldown
    · simp [never, cooled]
    · simp only [never, cooled, if_false, ne_eq, not_false_eq_true, true_and]
      exact iff_of_true trivial (UInt64.not_le.mp cooled)

theorem record_failure_opened (failed now : UInt64) (breaker : CircuitBreaker)
    (reached : breaker.failureCount + 1 ≥ breaker.failureThreshold) (clock : failed ≠ 0)
    (soon : now - failed < breaker.cooldown) : (breaker.recordFailure failed).state now = .opened := by
  rw [state_opened_iff]
  simp only [recordFailure, reached, if_true]
  exact ⟨clock, soon⟩

end CircuitBreaker

end Moxui.Proxmox
