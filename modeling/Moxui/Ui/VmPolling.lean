import Mathlib.Data.List.Induction
import Mathlib.Data.List.Infix

set_option autoImplicit false

namespace Moxui.Ui

def vmRetryDelays : List Nat :=
  [2000, 4000, 8000, 15000, 30000]

-- `VM_RETRY_DELAYS[index]`, for an index that is cut to the last one.
def retryDelay (index : Nat) : Nat :=
  vmRetryDelays.getD (min index (vmRetryDelays.length - 1)) 0

structure VmsError where
  message : String
  retried : Bool
  nextRetryMs : Option Nat
deriving DecidableEq, Repr

-- The body of an answer. `errors` says what went wrong, cluster by cluster.
structure VmsBody (ν : Type) where
  vms : Option (List ν)
  errors : Option (List (String × String))

structure VmList (ν : Type) where
  vms : List ν
  vmsError : Option VmsError
  vmsLastUpdated : Option Nat
  vmsRetryDelay : Option Nat

-- How a call of `fetchVms` ends: with a body, at a reading of the clock, or with an exception.
inductive Outcome (ν : Type) where
  | success (body : VmsBody ν) (now : Nat)
  | failure (message : String)

namespace VmList

variable {ν : Type}

def initial : VmList ν :=
  { vms := [], vmsError := none, vmsLastUpdated := none, vmsRetryDelay := none }

def clusterErrors (errors : List (String × String)) : Option VmsError :=
  if errors.isEmpty then none
  else some
    { message := "Some clusters failed: " ++ "; ".intercalate (errors.map fun error => error.1 ++ ": " ++ error.2)
      retried := false
      nextRetryMs := none }

def fetchVms (page : VmList ν) : Outcome ν → VmList ν
  | .success body now =>
      { vms := body.vms.getD []
        vmsError := clusterErrors (body.errors.getD [])
        vmsLastUpdated := some now
        vmsRetryDelay := none }
  | .failure message =>
      let prev := page.vmsRetryDelay.getD 0
      let idx := min (prev / 2000) (vmRetryDelays.length - 1)
      let delay := retryDelay idx
      { page with
        vmsError := some { message := message, retried := true, nextRetryMs := some delay }
        vmsRetryDelay := some (if delay < retryDelay (vmRetryDelays.length - 1) then retryDelay (idx + 1) else delay) }

def after (outcomes : List (Outcome ν)) : VmList ν :=
  outcomes.foldl fetchVms initial

end VmList

section Backoff

variable {ν : Type}

def Outcome.isFailure : Outcome ν → Bool
  | .success _ _ => false
  | .failure _ => true

def failures (outcomes : List (Outcome ν)) : Nat :=
  outcomes.foldl (fun count outcome => if outcome.isFailure then count + 1 else 0) 0

-- Each failure of the run reports the entry of the table for the failures before it.
def FollowsTable (outcomes : List (Outcome ν)) : Prop :=
  ∀ earlier message, earlier ++ [.failure message] <+: outcomes →
    (VmList.after (earlier ++ [.failure message])).vmsError =
      some { message := message, retried := true, nextRetryMs := some (retryDelay (failures earlier)) }

def NoFailureTwice (outcomes : List (Outcome ν)) : Prop :=
  ∀ earlier first second, ¬earlier ++ [.failure first, .failure second] <+: outcomes

-- What the page keeps after so many failures: the entry after the one that it has reported.
def storedDelay : Nat → Option Nat
  | 0 => none
  | 1 => some 4000
  | 2 => some 15000
  | _ + 3 => some 30000

def reportedDelay : Nat → Nat
  | 0 => 2000
  | 1 => 8000
  | _ + 2 => 30000

theorem after_append (outcomes : List (Outcome ν)) (outcome : Outcome ν) :
    VmList.after (outcomes ++ [outcome]) = (VmList.after outcomes).fetchVms outcome := by
  rw [VmList.after, List.foldl_append]
  rfl

theorem failures_append (outcomes : List (Outcome ν)) (outcome : Outcome ν) :
    failures (outcomes ++ [outcome]) = if outcome.isFailure then failures outcomes + 1 else 0 := by
  rw [failures, List.foldl_append]
  rfl

theorem fetch_failed (page : VmList ν) (message : String) (count : Nat) (stored : page.vmsRetryDelay = storedDelay count) :
    (page.fetchVms (.failure message)).vmsError =
        some { message := message, retried := true, nextRetryMs := some (reportedDelay count) } ∧
      (page.fetchVms (.failure message)).vmsRetryDelay = storedDelay (count + 1) := by
  rw [VmList.fetchVms, stored]
  match count with
  | 0 => exact ⟨rfl, rfl⟩
  | 1 => exact ⟨rfl, rfl⟩
  | 2 => exact ⟨rfl, rfl⟩
  | more + 3 =>
      have last : storedDelay (more + 3) = some 30000 := rfl
      rw [last]
      exact ⟨rfl, rfl⟩

theorem stored_delay (outcomes : List (Outcome ν)) :
    (VmList.after outcomes).vmsRetryDelay = storedDelay (failures outcomes) := by
  induction outcomes using List.reverseRecOn with
  | nil => rfl
  | append_singleton earlier outcome ih =>
      rw [after_append, failures_append]
      cases outcome with
      | success body now => rfl
      | failure message => exact (fetch_failed _ message _ ih).2

theorem reported_delay (outcomes : List (Outcome ν)) (message : String) :
    (VmList.after (outcomes ++ [.failure message])).vmsError =
      some { message := message, retried := true, nextRetryMs := some (reportedDelay (failures outcomes)) } := by
  rw [after_append]
  exact (fetch_failed _ message _ (stored_delay outcomes)).1

-- The second entry is skipped, and so are the third and the fourth.
theorem reported_from_table_iff (count : Nat) : reportedDelay count = retryDelay count ↔ count = 0 ∨ 4 ≤ count := by
  match count with
  | 0 => decide
  | 1 => decide
  | 2 => decide
  | 3 => decide
  | more + 4 =>
      have last : min (more + 4) (vmRetryDelays.length - 1) = 4 := Nat.min_eq_right (Nat.le_add_left 4 more)
      rw [retryDelay, last]
      exact ⟨fun _ => Or.inr (Nat.le_add_left 4 more), fun _ => rfl⟩

theorem failure_follows_iff (earlier : List (Outcome ν)) (message : String) :
    (VmList.after (earlier ++ [.failure message])).vmsError =
        some { message := message, retried := true, nextRetryMs := some (retryDelay (failures earlier)) } ↔
      failures earlier = 0 ∨ 4 ≤ failures earlier := by
  rw [reported_delay, ← reported_from_table_iff, Option.some.injEq, VmsError.mk.injEq, Option.some.injEq]
  exact ⟨fun same => same.2.2, fun same => ⟨rfl, rfl, same⟩⟩

theorem once_failed (outcomes : List (Outcome ν)) (apart : NoFailureTwice outcomes) (earlier : List (Outcome ν))
    (message : String) (during : earlier ++ [.failure message] <+: outcomes) : failures earlier = 0 := by
  cases earlier using List.reverseRecOn with
  | nil => rfl
  | append_singleton before outcome =>
      rw [failures_append]
      cases outcome with
      | success body now => rfl
      | failure first =>
          rw [List.append_assoc] at during
          exact absurd during (apart before first message)

theorem at_most_once (outcomes : List (Outcome ν)) (follows : FollowsTable outcomes) (earlier : List (Outcome ν))
    (during : earlier <+: outcomes) : failures earlier ≤ 1 := by
  induction earlier using List.reverseRecOn with
  | nil => exact Nat.zero_le 1
  | append_singleton before outcome ih =>
      rw [failures_append]
      cases outcome with
      | success body now => exact Nat.zero_le 1
      | failure message =>
          have few := ih ((List.prefix_append before _).trans during)
          have reported := (failure_follows_iff before message).mp (follows before message during)
          change failures before + 1 ≤ 1
          omega

theorem follows_table_iff (outcomes : List (Outcome ν)) : FollowsTable outcomes ↔ NoFailureTwice outcomes := by
  constructor
  · intro follows earlier first second during
    have few := at_most_once outcomes follows _ during
    have twice : failures (earlier ++ [.failure first, .failure second]) = failures earlier + 1 + 1 := by
      have split : earlier ++ [.failure first, .failure second] = (earlier ++ [.failure first]) ++ [.failure second] :=
        (List.append_assoc earlier [.failure first] [.failure second]).symm
      rw [split, failures_append, failures_append]
      rfl
    omega
  · intro apart earlier message during
    exact (failure_follows_iff earlier message).mpr (Or.inl (once_failed outcomes apart earlier message during))

def twoFailures : List (Outcome Unit) :=
  [.failure "503: upstream", .failure "503: upstream"]

theorem second_delay_skipped :
    (VmList.after twoFailures).vmsError = some { message := "503: upstream", retried := true, nextRetryMs := some 8000 } ∧
      retryDelay (failures (twoFailures.take 1)) = 4000 ∧ ¬FollowsTable twoFailures := by
  refine ⟨rfl, rfl, ?_⟩
  intro follows
  exact (follows_table_iff twoFailures).mp follows [] _ _ (List.prefix_refl _)

end Backoff

end Moxui.Ui
