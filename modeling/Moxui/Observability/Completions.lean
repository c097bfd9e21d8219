import Mathlib.Algebra.Order.Group.Multiset
import Mathlib.Tactic.Abel
import Moxui.Lib.Grouping
import Moxui.Observability.Metrics

set_option autoImplicit false

namespace Moxui.Observability

structure Completion where
  request : ResponseFuture
  status : UInt16
  finished : Nat

namespace Completion

def series (completion : Completion) : String × String × String :=
  (completion.request.method, completion.request.path, toString completion.status.toNat)

def endpoint (completion : Completion) : String × String :=
  (completion.request.method, completion.request.path)

def duration (completion : Completion) : Nat :=
  completion.finished - completion.request.start

end Completion

namespace MetricsMiddleware

abbrev Event := Machine.Event MetricsMiddleware Turn Unit

def started (event : Event) : Option ResponseFuture :=
  match event.input with
  | .call method path now => some ⟨method, path, now⟩
  | _ => none

def completed (event : Event) : Option Completion :=
  match event.input with
  | .poll index (some ready) now =>
      event.before.futures[index]?.map fun future => ⟨future, statusOf ready, now⟩
  | _ => none

def cancelled (event : Event) : Option ResponseFuture :=
  match event.input with
  | .drop index => event.before.futures[index]?
  | _ => none

def completions (events : List Event) : List Completion :=
  events.filterMap completed

-- Every request that was taken is running, answered or gone, and is so once.
def Settled (middleware : MetricsMiddleware) (events : List Event) : Prop :=
  (events.filterMap started).Perm
    (middleware.futures ++ ((completions events).map Completion.request ++ events.filterMap cancelled))

structure Accounts (events : List Event) (middleware : MetricsMiddleware) : Prop where
  totals : Grouping.Keeps Completion.series List.length middleware.metrics.httpRequestsTotal (completions events)
  durations : Grouping.Keeps Completion.endpoint (List.map Completion.duration)
    middleware.metrics.httpRequestDurationSeconds (completions events)
  settled : middleware.Settled events

theorem filter_map_snoc {α : Type} (read : Event → Option α) (events : List Event) (event : Event) :
    (events ++ [event]).filterMap read = events.filterMap read ++ (read event).toList := by
  rw [List.filterMap_append]
  cases found : read event with
  | none => rw [List.filterMap_cons_none found, List.filterMap_nil, Option.toList_none]
  | some value => rw [List.filterMap_cons_some found, List.filterMap_nil, Option.toList_some]

section Turns

variable {events : List Event} {middleware : MetricsMiddleware}

theorem settled_snoc (settled : middleware.Settled events) (event : Event) (after : MetricsMiddleware)
    (balanced : (middleware.futures ++ (started event).toList).Perm
      (after.futures ++ ((completed event).toList.map Completion.request ++ (cancelled event).toList))) :
    after.Settled (events ++ [event]) := by
  unfold Settled completions at *
  rw [filter_map_snoc, filter_map_snoc, filter_map_snoc, List.map_append]
  rw [← Multiset.coe_eq_coe] at *
  simp only [← Multiset.coe_add] at *
  calc _ = (middleware.futures : Multiset ResponseFuture) + ((started event).toList : Multiset ResponseFuture) +
        ((((events.filterMap completed).map Completion.request : List ResponseFuture) : Multiset ResponseFuture) +
          (events.filterMap cancelled : List ResponseFuture)) := by rw [settled]; abel
    _ = _ := by rw [balanced]; abel

theorem accounts_unfinished (accounts : Accounts events middleware) (event : Event) (after : MetricsMiddleware)
    (unfinished : completed event = none)
    (totals : after.metrics.httpRequestsTotal = middleware.metrics.httpRequestsTotal)
    (durations : after.metrics.httpRequestDurationSeconds = middleware.metrics.httpRequestDurationSeconds)
    (balanced : (middleware.futures ++ (started event).toList).Perm (after.futures ++ (cancelled event).toList)) :
    Accounts (events ++ [event]) after := by
  have same : completions (events ++ [event]) = completions events := by
    rw [completions, filter_map_snoc, unfinished]
    exact List.append_nil _
  refine ⟨?_, ?_, settled_snoc accounts.settled event after ?_⟩
  · rw [same, totals]
    exact accounts.totals
  · rw [same, durations]
    exact accounts.durations
  · rw [unfinished]
    exact balanced

theorem erase_perm {index : Nat} {future : ResponseFuture} (found : middleware.futures[index]? = some future) :
    (middleware.futures ++ []).Perm (middleware.futures.eraseIdx index ++ [future]) := by
  obtain ⟨inside, isFuture⟩ := List.getElem?_eq_some_iff.mp found
  rw [List.append_nil, ← isFuture]
  exact (List.getElem_cons_eraseIdx_perm inside).symm.trans (List.perm_append_singleton _ _).symm

theorem accounts_ready (accounts : Accounts events middleware) (index : Nat) (ready : Except String UInt16) (now : Nat)
    (future : ResponseFuture) (found : middleware.futures[index]? = some future) :
    Accounts (events ++ [serving.event middleware (.poll index (some ready) now)])
      (middleware.turn (.poll index (some ready) now)) := by
  let completion : Completion := ⟨future, statusOf ready, now⟩
  have finished : completed (serving.event middleware (.poll index (some ready) now)) = some completion := by
    simp only [completed, Machine.event, found, Option.map_some, completion]
  have ended : completions (events ++ [serving.event middleware (.poll index (some ready) now)]) =
      completions events ++ [completion] := by
    rw [completions, filter_map_snoc, finished]
    rfl
  have turned : middleware.turn (.poll index (some ready) now) =
      ⟨middleware.metrics.endRequest future.method future.path (statusOf ready) future.start now,
        middleware.futures.eraseIdx index⟩ := by
    simp only [turn, found]
  rw [turned]
  refine ⟨?_, ?_, settled_snoc accounts.settled _ _ ?_⟩
  · rw [ended]
    refine accounts.totals.insert completion _ ?_
    intro earlier counted
    rw [List.length_append, counted]
    rfl
  · rw [ended]
    refine accounts.durations.insert completion _ ?_
    intro earlier observed
    rw [List.map_append, observed]
    rfl
  · rw [finished]
    exact erase_perm found

theorem accounts_turn (accounts : Accounts events middleware) (next : Turn) :
    Accounts (events ++ [serving.event middleware next]) (middleware.turn next) := by
  cases next with
  | call method path now =>
      refine accounts_unfinished accounts _ _ rfl rfl rfl ?_
      change (middleware.futures ++ [ResponseFuture.mk method path now]).Perm (_ :: middleware.futures ++ [])
      rw [List.append_nil]
      exact List.perm_append_singleton _ _
  | poll index inner now =>
      cases found : middleware.futures[index]? with
      | none =>
          have kept : middleware.turn (.poll index inner now) = middleware := by
            simp only [turn, found]
          rw [kept]
          refine accounts_unfinished accounts _ _ ?_ rfl rfl (List.Perm.refl _)
          cases inner <;> simp [completed, Machine.event, found]
      | some future =>
          cases inner with
          | none =>
              have kept : middleware.turn (.poll index none now) = middleware := by
                simp only [turn, found]
              rw [kept]
              exact accounts_unfinished accounts _ _ rfl rfl rfl (List.Perm.refl _)
          | some ready => exact accounts_ready accounts index ready now future found
  | drop index =>
      refine accounts_unfinished accounts _ _ rfl rfl rfl ?_
      change (middleware.futures ++ []).Perm (middleware.futures.eraseIdx index ++ (middleware.futures[index]?).toList)
      cases found : middleware.futures[index]? with
      | none =>
          rw [List.eraseIdx_of_length_le (List.getElem?_eq_none_iff.mp found)]
          exact List.Perm.refl _
      | some future => exact erase_perm found

end Turns

theorem metrics_account (turns : List Turn) : Accounts (serving.trace new turns) (serving.run new turns) := by
  refine serving.history new (fun _ => True) Accounts (fun _ _ _ => trivial) ?_ ?_ turns trivial
  · exact ⟨Grouping.keeps_empty, Grouping.keeps_empty, List.Perm.refl []⟩
  · intro earlier next _ accounts
    exact accounts_turn accounts next

end MetricsMiddleware

end Moxui.Observability
