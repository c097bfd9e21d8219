import Mathlib.Data.List.Induction

set_option autoImplicit false

-- A deterministic state machine. What is not determined by the program (the clock, fresh
-- random values, the order of an iteration) is part of the input.
structure Machine (σ ι ο : Type) where
  step : σ → ι → σ × ο

namespace Machine

structure Event (σ ι ο : Type) where
  before : σ
  input : ι
  output : ο
  after : σ

variable {σ ι ο : Type}

def event (machine : Machine σ ι ο) (state : σ) (input : ι) : Event σ ι ο :=
  ⟨state, input, (machine.step state input).2, (machine.step state input).1⟩

def run (machine : Machine σ ι ο) : σ → List ι → σ
  | state, [] => state
  | state, input :: inputs => run machine (machine.step state input).1 inputs

def trace (machine : Machine σ ι ο) : σ → List ι → List (Event σ ι ο)
  | _, [] => []
  | state, input :: inputs => event machine state input :: trace machine (machine.step state input).1 inputs

@[simp] theorem run_nil (machine : Machine σ ι ο) (state : σ) : machine.run state [] = state := rfl

@[simp] theorem trace_nil (machine : Machine σ ι ο) (state : σ) : machine.trace state [] = [] := rfl

theorem run_append (machine : Machine σ ι ο) (state : σ) (earlier later : List ι) :
    machine.run state (earlier ++ later) = machine.run (machine.run state earlier) later := by
  induction earlier generalizing state with
  | nil => rfl
  | cons input inputs ih => exact ih (machine.step state input).1

theorem run_snoc (machine : Machine σ ι ο) (state : σ) (inputs : List ι) (input : ι) :
    machine.run state (inputs ++ [input]) = (machine.step (machine.run state inputs) input).1 := by
  rw [run_append]
  rfl

theorem trace_append (machine : Machine σ ι ο) (state : σ) (earlier later : List ι) :
    machine.trace state (earlier ++ later) =
      machine.trace state earlier ++ machine.trace (machine.run state earlier) later := by
  induction earlier generalizing state with
  | nil => rfl
  | cons input inputs ih =>
      simp only [List.cons_append, trace, run, ih]

theorem trace_snoc (machine : Machine σ ι ο) (state : σ) (inputs : List ι) (input : ι) :
    machine.trace state (inputs ++ [input]) =
      machine.trace state inputs ++ [event machine (machine.run state inputs) input] := by
  rw [trace_append]
  rfl

theorem trace_inputs (machine : Machine σ ι ο) (state : σ) (inputs : List ι) :
    (machine.trace state inputs).map Event.input = inputs := by
  induction inputs generalizing state with
  | nil => rfl
  | cons input inputs ih =>
      simp only [trace, List.map_cons, ih]
      rfl

theorem trace_input_mem (machine : Machine σ ι ο) (state : σ) (inputs : List ι) (occurrence : Event σ ι ο)
    (member : occurrence ∈ machine.trace state inputs) : occurrence.input ∈ inputs := by
  have listed := List.mem_map_of_mem (f := Event.input) member
  rwa [trace_inputs] at listed

theorem forall_trace_input (machine : Machine σ ι ο) (state : σ) (inputs : List ι) (Allowed : ι → Prop) :
    (∀ occurrence ∈ machine.trace state inputs, Allowed occurrence.input) ↔ ∀ input ∈ inputs, Allowed input := by
  have listed := List.forall_mem_map (f := Event.input) (l := machine.trace state inputs) (P := Allowed)
  rw [trace_inputs] at listed
  exact listed.symm

theorem trace_event (machine : Machine σ ι ο) (state : σ) (inputs : List ι) (occurrence : Event σ ι ο)
    (member : occurrence ∈ machine.trace state inputs) :
    ∃ earlier later, inputs = earlier ++ occurrence.input :: later ∧
      occurrence = event machine (machine.run state earlier) occurrence.input := by
  induction inputs generalizing state with
  | nil => simp at member
  | cons input inputs ih =>
      rcases List.mem_cons.mp member with first | later
      · subst first
        exact ⟨[], inputs, rfl, rfl⟩
      · obtain ⟨earlier, rest, inputsEq, eventEq⟩ := ih _ later
        exact ⟨input :: earlier, rest, by rw [inputsEq]; rfl, eventEq⟩

theorem trace_split (machine : Machine σ ι ο) (state : σ) (inputs : List ι) (earlier later : List (Event σ ι ο))
    (occurrence : Event σ ι ο) (split : machine.trace state inputs = earlier ++ occurrence :: later) :
    ∃ before input after, inputs = before ++ input :: after ∧ earlier = machine.trace state before ∧
      occurrence = event machine (machine.run state before) input ∧
      later = machine.trace (machine.run state (before ++ [input])) after := by
  induction earlier generalizing state inputs with
  | nil =>
      cases inputs with
      | nil => simp at split
      | cons input inputs =>
          simp only [trace, List.nil_append, List.cons.injEq] at split
          exact ⟨[], input, inputs, rfl, rfl, split.1.symm, split.2.symm⟩
  | cons first earlier ih =>
      cases inputs with
      | nil => simp at split
      | cons input inputs =>
          simp only [trace, List.cons_append, List.cons.injEq] at split
          obtain ⟨before, chosen, after, inputsEq, earlierEq, occurrenceEq, laterEq⟩ := ih _ inputs split.2
          refine ⟨input :: before, chosen, after, ?_, ?_, occurrenceEq, laterEq⟩
          · rw [inputsEq]
            rfl
          · rw [← split.1, earlierEq]
            rfl

-- What is kept by every step from a prefix of the inputs, as long as that prefix is allowed,
-- holds of every allowed run. The invariant may speak of the past through the trace.
theorem history (machine : Machine σ ι ο) (start : σ) (Allowed : List ι → Prop)
    (Inv : List (Event σ ι ο) → σ → Prop)
    (closed : ∀ inputs input, Allowed (inputs ++ [input]) → Allowed inputs)
    (initial : Inv [] start)
    (preserved : ∀ inputs input, Allowed (inputs ++ [input]) →
      Inv (machine.trace start inputs) (machine.run start inputs) →
      Inv (machine.trace start inputs ++ [event machine (machine.run start inputs) input])
        (machine.step (machine.run start inputs) input).1)
    (inputs : List ι) (allowed : Allowed inputs) :
    Inv (machine.trace start inputs) (machine.run start inputs) := by
  induction inputs using List.reverseRecOn with
  | nil => exact initial
  | append_singleton inputs input ih =>
      rw [trace_snoc, run_snoc]
      exact preserved inputs input allowed (ih (closed inputs input allowed))

theorem invariant (machine : Machine σ ι ο) (start : σ) (Inv : σ → Prop) (initial : Inv start)
    (preserved : ∀ state input, Inv state → Inv (machine.step state input).1) (inputs : List ι) :
    Inv (machine.run start inputs) :=
  history machine start (fun _ => True) (fun _ state => Inv state) (fun _ _ _ => trivial) initial
    (fun _ input _ holds => preserved _ input holds) inputs trivial

-- What every step keeps exactly when it is allowed holds all along a run exactly when it held
-- at the start and every step of the run was allowed.
theorem prefixes_iff (machine : Machine σ ι ο) (Holds : σ → Prop) (Allowed : σ → ι → Prop)
    (each : ∀ state input, Holds state → (Holds (machine.step state input).1 ↔ Allowed state input)) (start : σ)
    (inputs : List ι) :
    (∀ earlier, earlier <+: inputs → Holds (machine.run start earlier)) ↔
      Holds start ∧ ∀ occurrence ∈ machine.trace start inputs, Allowed occurrence.before occurrence.input := by
  induction inputs generalizing start with
  | nil => simp
  | cons input inputs ih =>
      have split : (∀ earlier, earlier <+: input :: inputs → Holds (machine.run start earlier)) ↔
          Holds start ∧ ∀ earlier, earlier <+: inputs → Holds (machine.run (machine.step start input).1 earlier) := by
        simp only [List.prefix_cons_iff, forall_eq_or_imp, run_nil]
        refine and_congr_right fun _ => ⟨?_, ?_⟩
        · intro all earlier before
          exact all (input :: earlier) ⟨earlier, rfl, before⟩
        · rintro all _ ⟨earlier, rfl, before⟩
          exact all earlier before
      rw [split, ih]
      simp only [trace, List.forall_mem_cons]
      refine and_congr_right fun holds => ?_
      rw [each start input holds]
      rfl

theorem events_iff (machine : Machine σ ι ο) (Inv : σ → Prop) (Right : Event σ ι ο → Prop) (Allowed : σ → ι → Prop)
    (each : ∀ state input, Inv state → (Right (event machine state input) ↔ Allowed state input))
    (kept : ∀ state input, Inv state → Allowed state input → Inv (machine.step state input).1) (start : σ)
    (initial : Inv start) (inputs : List ι) :
    (∀ occurrence ∈ machine.trace start inputs, Right occurrence) ↔
      ∀ occurrence ∈ machine.trace start inputs, Allowed occurrence.before occurrence.input := by
  induction inputs generalizing start with
  | nil => simp
  | cons input inputs ih =>
      simp only [trace, List.forall_mem_cons]
      rw [each start input initial]
      apply and_congr_right
      intro allowed
      exact ih (machine.step start input).1 (kept start input initial allowed)

section Projection

variable {σ' ι' ο' : Type}

-- Part of the state follows another machine when each event makes it take some steps of it.
structure Follows (machine : Machine σ ι ο) (other : Machine σ' ι' ο') (view : σ → σ')
    (moves : Event σ ι ο → List ι') : Prop where
  step : ∀ state input, view (machine.step state input).1 =
    other.run (view state) (moves (event machine state input))

def movesOf (moves : Event σ ι ο → List ι') (trace : List (Event σ ι ο)) : List ι' :=
  trace.flatMap moves

variable {machine : Machine σ ι ο} {other : Machine σ' ι' ο'} {view : σ → σ'} {moves : Event σ ι ο → List ι'}

theorem Follows.run (follows : Follows machine other view moves) (state : σ) (inputs : List ι) :
    view (machine.run state inputs) = other.run (view state) (movesOf moves (machine.trace state inputs)) := by
  induction inputs generalizing state with
  | nil => rfl
  | cons input inputs ih =>
      have first := follows.step state input
      simp only [movesOf, trace, List.flatMap_cons, run_append] at ih ⊢
      rw [← first]
      exact ih (machine.step state input).1

theorem Follows.trace (follows : Follows machine other view moves) (state : σ) (inputs : List ι) :
    other.trace (view state) (movesOf moves (machine.trace state inputs)) =
      (machine.trace state inputs).flatMap fun occurrence => other.trace (view occurrence.before) (moves occurrence) := by
  induction inputs generalizing state with
  | nil => rfl
  | cons input inputs ih =>
      have first := follows.step state input
      simp only [movesOf, Machine.trace, List.flatMap_cons, trace_append] at ih ⊢
      rw [← first, ih (machine.step state input).1]
      rfl

theorem moves_snoc (moves : Event σ ι ο → List ι') (trace : List (Event σ ι ο)) (occurrence : Event σ ι ο) :
    movesOf moves (trace ++ [occurrence]) = movesOf moves trace ++ moves occurrence := by
  simp [movesOf]

theorem Follows.mem_trace (follows : Follows machine other view moves) (state : σ) (inputs : List ι)
    (occurrence : Event σ ι ο) (member : occurrence ∈ machine.trace state inputs) (move : Event σ' ι' ο')
    (moved : move ∈ other.trace (view occurrence.before) (moves occurrence)) :
    move ∈ other.trace (view state) (movesOf moves (machine.trace state inputs)) := by
  rw [follows.trace]
  exact List.mem_flatMap.mpr ⟨occurrence, member, moved⟩

end Projection

end Machine
