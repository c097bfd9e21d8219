import Mathlib.Data.List.Count
import Mathlib.Data.List.Perm.Basic
import Moxui.Lib.Machine
import Moxui.Lib.Table

set_option autoImplicit false

namespace Moxui.Observability

-- The RED metrics. A time series that was never touched is the same as one at zero.
structure MetricsService where
  httpRequestsTotal : Table (String × String × String) Nat
  httpRequestDurationSeconds : Table (String × String) (List Nat)
  httpRequestsInFlight : Table String Int

namespace MetricsService

def new : MetricsService :=
  ⟨∅, ∅, ∅⟩

def inFlight (metrics : MetricsService) (method : String) : Int :=
  (metrics.httpRequestsInFlight.lookup method).getD 0

def startRequest (method : String) (metrics : MetricsService) : MetricsService :=
  { metrics with httpRequestsInFlight := metrics.httpRequestsInFlight.insert method (metrics.inFlight method + 1) }

def endRequest (method path : String) (status : UInt16) (start now : Nat) (metrics : MetricsService) : MetricsService :=
  let labels := (method, path, toString status.toNat)
  { httpRequestsTotal :=
      metrics.httpRequestsTotal.insert labels ((metrics.httpRequestsTotal.lookup labels).getD 0 + 1)
    httpRequestDurationSeconds := metrics.httpRequestDurationSeconds.insert (method, path)
      ((metrics.httpRequestDurationSeconds.lookup (method, path)).getD [] ++ [now - start])
    httpRequestsInFlight := metrics.httpRequestsInFlight.insert method (metrics.inFlight method - 1) }

@[simp] theorem in_flight_start (method other : String) (metrics : MetricsService) :
    (metrics.startRequest method).inFlight other = metrics.inFlight other + if method = other then 1 else 0 := by
  unfold inFlight startRequest
  rw [Table.lookup_insert_eq]
  by_cases same : other = method
  · subst same
    simp [inFlight]
  · simp [same, Ne.symm same]

@[simp] theorem in_flight_end (method path other : String) (status : UInt16) (start now : Nat) (metrics : MetricsService) :
    (metrics.endRequest method path status start now).inFlight other =
      metrics.inFlight other - if method = other then 1 else 0 := by
  unfold inFlight endRequest
  rw [Table.lookup_insert_eq]
  by_cases same : other = method
  · subst same
    simp [inFlight]
  · simp [same, Ne.symm same]

end MetricsService

-- What `call` moves into the future that it returns.
structure ResponseFuture where
  method : String
  path : String
  start : Nat

structure MetricsMiddleware where
  metrics : MetricsService
  futures : List ResponseFuture

inductive Turn where
  | call (method path : String) (now : Nat)
  | poll (index : Nat) (inner : Option (Except String UInt16)) (now : Nat)
  | drop (index : Nat)

def statusOf : Except String UInt16 → UInt16
  | .ok status => status
  | .error _ => 500

namespace MetricsMiddleware

def new : MetricsMiddleware :=
  ⟨.new, []⟩

-- `none` is `Pending`. A future that is dropped takes its captures with it and does nothing else.
def turn (middleware : MetricsMiddleware) : Turn → MetricsMiddleware
  | .call method path now => ⟨middleware.metrics.startRequest method, ⟨method, path, now⟩ :: middleware.futures⟩
  | .poll index inner now =>
      match middleware.futures[index]?, inner with
      | some future, some ready =>
          ⟨middleware.metrics.endRequest future.method future.path (statusOf ready) future.start now,
            middleware.futures.eraseIdx index⟩
      | _, _ => middleware
  | .drop index => { middleware with futures := middleware.futures.eraseIdx index }

def serving : Machine MetricsMiddleware Turn Unit where
  step middleware next := (middleware.turn next, ())

def running (middleware : MetricsMiddleware) (method : String) : Nat :=
  middleware.futures.countP fun future => future.method == method

def InFlightExact (middleware : MetricsMiddleware) : Prop :=
  ∀ method, middleware.metrics.inFlight method = middleware.running method

def cancels (method : String) (event : Machine.Event MetricsMiddleware Turn Unit) : Bool :=
  match event.input with
  | .drop index => event.before.futures[index]?.any fun future => future.method == method
  | _ => false

theorem running_erase (middleware : MetricsMiddleware) (method : String) (index : Nat) (future : ResponseFuture)
    (found : middleware.futures[index]? = some future) :
    middleware.running method =
      (middleware.futures.eraseIdx index).countP (fun future => future.method == method) +
        if future.method = method then 1 else 0 := by
  obtain ⟨inside, isFuture⟩ := List.getElem?_eq_some_iff.mp found
  have perm := List.getElem_cons_eraseIdx_perm inside
  rw [running, ← perm.countP_eq, List.countP_cons, isFuture]
  simp only [beq_iff_eq]

theorem turn_drift (middleware : MetricsMiddleware) (next : Turn) (method : String) :
    (middleware.turn next).metrics.inFlight method - (middleware.turn next).running method =
      middleware.metrics.inFlight method - middleware.running method +
        if cancels method (serving.event middleware next) then 1 else 0 := by
  cases next with
  | call called path now =>
      simp only [turn, MetricsService.in_flight_start, running, List.countP_cons, cancels, Machine.event, beq_iff_eq]
      by_cases same : called = method
      · simp only [if_pos same]
        push_cast
        omega
      · simp only [if_neg same, Bool.false_eq_true, ↓reduceIte]
        omega
  | poll index inner now =>
      cases found : middleware.futures[index]? with
      | none => simp [turn, found, cancels, Machine.event]
      | some future =>
          cases inner with
          | none => simp [turn, found, cancels, Machine.event]
          | some ready =>
              have counted := running_erase middleware method index future found
              simp only [turn, found, MetricsService.in_flight_end, cancels, Machine.event, counted]
              change _ - ((middleware.futures.eraseIdx index).countP _ : Int) = _
              by_cases same : future.method = method
              · simp only [if_pos same]
                push_cast
                omega
              · simp only [if_neg same, Bool.false_eq_true, ↓reduceIte]
                omega
  | drop index =>
      cases found : middleware.futures[index]? with
      | none =>
          have kept : middleware.futures.eraseIdx index = middleware.futures :=
            List.eraseIdx_of_length_le (List.getElem?_eq_none_iff.mp found)
          simp [turn, kept, cancels, Machine.event, found]
      | some future =>
          have counted := running_erase middleware method index future found
          simp only [turn, cancels, Machine.event, found, Option.any_some, beq_iff_eq, counted]
          change _ - ((middleware.futures.eraseIdx index).countP _ : Int) = _
          by_cases same : future.method = method
          · simp only [if_pos same]
            push_cast
            omega
          · simp only [if_neg same]
            omega

theorem run_drift (turns : List Turn) (method : String) :
    (serving.run new turns).metrics.inFlight method =
      (serving.run new turns).running method + ((serving.trace new turns).countP (cancels method) : Int) := by
  induction turns using List.reverseRecOn with
  | nil => rfl
  | append_singleton turns next ih =>
      have step := turn_drift (serving.run new turns) next method
      rw [Machine.run_snoc, Machine.trace_snoc, List.countP_append, List.countP_singleton]
      change (MetricsMiddleware.turn _ next).metrics.inFlight method = (MetricsMiddleware.turn _ next).running method + _
      split at step <;> rename_i cancelled <;> simp only [cancelled] <;> push_cast <;> omega

-- `end_request` stands after the await, and a future that is dropped never gets there.
theorem in_flight_exact_iff (turns : List Turn) :
    (serving.run new turns).InFlightExact ↔
      ∀ event ∈ serving.trace new turns, ∀ method, cancels method event = false := by
  constructor
  · intro exact event member method
    have drift := run_drift turns method
    rw [exact method] at drift
    have none : (serving.trace new turns).countP (cancels method) = 0 := by omega
    exact Bool.eq_false_iff.mpr (List.countP_eq_zero.mp none event member)
  · intro uncancelled method
    have none : (serving.trace new turns).countP (cancels method) = 0 :=
      List.countP_eq_zero.mpr fun event member => Bool.eq_false_iff.mp (uncancelled event member method)
    rw [run_drift, none]
    simp

-- A client asks and goes away before it is answered.
theorem disconnect_counted_forever :
    ¬ (serving.run new [.call "GET" "/api/v1/vms" 0, .drop 0]).InFlightExact := by
  intro exact
  exact absurd (exact "GET") (by decide)

end MetricsMiddleware

end Moxui.Observability
