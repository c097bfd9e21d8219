import Mathlib.Logic.Function.Basic
import Mathlib.Data.List.Basic

set_option autoImplicit false

-- The intervals of a page, each under a name that keeps its handle.
structure Intervals (κ : Type) where
  handle : κ → Option Nat
  running : List Nat
  next : Nat

namespace Intervals

variable {κ : Type}

def idle : Intervals κ :=
  { handle := fun _ => none, running := [], next := 1 }

section Operations

variable [DecidableEq κ] (intervals : Intervals κ) (name : κ)

def stop : Intervals κ :=
  match intervals.handle name with
  | none => intervals
  | some id =>
      { intervals with
        handle := Function.update intervals.handle name none
        running := intervals.running.filter (· ≠ id) }

def set : Intervals κ :=
  { handle := Function.update intervals.handle name (some intervals.next)
    running := intervals.running ++ [intervals.next]
    next := intervals.next + 1 }

def start : Intervals κ :=
  (intervals.stop name).set name

end Operations

structure Valid (intervals : Intervals κ) : Prop where
  held : ∀ id ∈ intervals.running, ∃ name, intervals.handle name = some id
  runs : ∀ name id, intervals.handle name = some id → id ∈ intervals.running
  given : ∀ name id, intervals.handle name = some id → id < intervals.next
  own : ∀ name other id, intervals.handle name = some id → intervals.handle other = some id → name = other

theorem idle_valid : (idle : Intervals κ).Valid :=
  { held := fun _ runs => absurd runs List.not_mem_nil
    runs := fun _ _ held => absurd held.symm (Option.some_ne_none _)
    given := fun _ _ held => absurd held.symm (Option.some_ne_none _)
    own := fun _ _ _ held => absurd held.symm (Option.some_ne_none _) }

theorem running_empty (intervals : Intervals κ) (valid : intervals.Valid) :
    intervals.running = [] ↔ ∀ name, intervals.handle name = none := by
  constructor
  · intro empty name
    cases held : intervals.handle name with
    | none => rfl
    | some id =>
        have runs := valid.runs name id held
        rw [empty] at runs
        exact absurd runs List.not_mem_nil
  · intro unheld
    rw [List.eq_nil_iff_forall_not_mem]
    intro id runs
    obtain ⟨name, held⟩ := valid.held id runs
    rw [unheld name] at held
    exact nomatch held

variable [DecidableEq κ]

theorem stop_handle (intervals : Intervals κ) (name other : κ) :
    (intervals.stop name).handle other = if other = name then none else intervals.handle other := by
  rw [stop]
  cases held : intervals.handle name with
  | none =>
      by_cases same : other = name
      · rw [if_pos same, same, held]
      · rw [if_neg same]
  | some id => exact Function.update_apply _ _ _ _

theorem stop_held (intervals : Intervals κ) (name other : κ) (id : Nat)
    (held : (intervals.stop name).handle other = some id) : other ≠ name ∧ intervals.handle other = some id := by
  rw [stop_handle] at held
  by_cases same : other = name
  · rw [if_pos same] at held
    exact nomatch held
  · rw [if_neg same] at held
    exact ⟨same, held⟩

theorem set_handle (intervals : Intervals κ) (name other : κ) :
    (intervals.set name).handle other = if other = name then some intervals.next else intervals.handle other :=
  Function.update_apply _ _ _ _

theorem start_handle (intervals : Intervals κ) (name other : κ) (different : other ≠ name) :
    (intervals.start name).handle other = intervals.handle other := by
  rw [start, set_handle, if_neg different, stop_handle, if_neg different]

theorem stop_next (intervals : Intervals κ) (name : κ) : (intervals.stop name).next = intervals.next := by
  rw [stop]
  split <;> rfl

theorem stop_running (intervals : Intervals κ) (name : κ) (id : Nat) :
    id ∈ (intervals.stop name).running ↔ id ∈ intervals.running ∧ intervals.handle name ≠ some id := by
  rw [stop]
  cases held : intervals.handle name with
  | none => simp
  | some own =>
      simp only [List.mem_filter, decide_eq_true_eq, ne_eq, Option.some_inj]
      rw [eq_comm (a := own)]

theorem stop_valid (intervals : Intervals κ) (valid : intervals.Valid) (name : κ) : (intervals.stop name).Valid := by
  refine ⟨?_, ?_, ?_, ?_⟩
  · intro id runs
    obtain ⟨ran, kept⟩ := (stop_running intervals name id).mp runs
    obtain ⟨other, held⟩ := valid.held id ran
    have different : other ≠ name := fun same => kept (same ▸ held)
    exact ⟨other, by rw [stop_handle, if_neg different, held]⟩
  · intro other id held
    obtain ⟨different, before⟩ := stop_held intervals name other id held
    refine (stop_running intervals name id).mpr ⟨valid.runs other id before, ?_⟩
    intro same
    exact different (valid.own other name id before same)
  · intro other id held
    rw [stop_next]
    exact valid.given other id (stop_held intervals name other id held).2
  · intro first second id held other
    exact valid.own first second id (stop_held intervals name first id held).2 (stop_held intervals name second id other).2

theorem set_valid (intervals : Intervals κ) (valid : intervals.Valid) (name : κ) (free : intervals.handle name = none) :
    (intervals.set name).Valid := by
  have before (other : κ) (id : Nat) (held : (intervals.set name).handle other = some id) :
      (other = name ∧ id = intervals.next) ∨ (other ≠ name ∧ intervals.handle other = some id) := by
    rw [set_handle] at held
    by_cases same : other = name
    · rw [if_pos same, Option.some_inj] at held
      exact Or.inl ⟨same, held.symm⟩
    · rw [if_neg same] at held
      exact Or.inr ⟨same, held⟩
  refine ⟨?_, ?_, ?_, ?_⟩
  · intro id runs
    rcases List.mem_append.mp runs with ran | fresh
    · obtain ⟨other, held⟩ := valid.held id ran
      have different : other ≠ name := by
        rintro rfl
        rw [free] at held
        exact nomatch held
      exact ⟨other, by rw [set_handle, if_neg different, held]⟩
    · exact ⟨name, by rw [set_handle, if_pos rfl, List.mem_singleton.mp fresh]⟩
  · intro other id held
    rcases before other id held with ⟨_, rfl⟩ | ⟨_, kept⟩
    · exact List.mem_append_right _ List.mem_cons_self
    · exact List.mem_append_left _ (valid.runs other id kept)
  · intro other id held
    rcases before other id held with ⟨_, rfl⟩ | ⟨_, kept⟩
    · exact Nat.lt_succ_self _
    · exact Nat.lt_succ_of_lt (valid.given other id kept)
  · intro first second id held other
    rcases before first id held with ⟨isFirst, fresh⟩ | ⟨_, kept⟩
    · rcases before second id other with ⟨isSecond, _⟩ | ⟨_, later⟩
      · rw [isFirst, isSecond]
      · exact absurd (valid.given second id later) (by omega)
    · rcases before second id other with ⟨_, fresh⟩ | ⟨_, later⟩
      · exact absurd (valid.given first id kept) (by omega)
      · exact valid.own first second id kept later

theorem start_valid (intervals : Intervals κ) (valid : intervals.Valid) (name : κ) : (intervals.start name).Valid :=
  set_valid _ (stop_valid intervals valid name) name (by rw [stop_handle, if_pos rfl])

end Intervals
