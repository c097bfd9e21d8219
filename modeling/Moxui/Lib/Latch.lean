import Moxui.Lib.Machine

set_option autoImplicit false

-- Something that is opened now and then, with what the machine shows at that moment. As long as
-- nothing else is shown while it is open, what is shown is what it was last opened with.
namespace Machine

variable {σ ι ο α : Type}

def latched (opened : σ → ι → Option α) (past : List (Event σ ι ο)) : Option α :=
  past.foldl (fun value occurrence => (opened occurrence.before occurrence.input).or value) none

theorem latched_snoc (opened : σ → ι → Option α) (past : List (Event σ ι ο)) (occurrence : Event σ ι ο) :
    latched opened (past ++ [occurrence]) = (opened occurrence.before occurrence.input).or (latched opened past) := by
  rw [latched, List.foldl_append]
  rfl

theorem latched_split (opened : σ → ι → Option α) (past : List (Event σ ι ο)) (value : α)
    (latches : latched opened past = some value) :
    ∃ earlier occurrence later, past = earlier ++ occurrence :: later ∧
      opened occurrence.before occurrence.input = some value ∧
      ∀ other ∈ later, opened other.before other.input = none := by
  induction past using List.reverseRecOn with
  | nil => cases latches
  | append_singleton past last ih =>
      rw [latched_snoc] at latches
      cases opens : opened last.before last.input with
      | some now =>
          rw [opens, Option.some_or] at latches
          exact ⟨past, last, [], rfl, opens.trans latches, by simp⟩
      | none =>
          rw [opens, Option.none_or] at latches
          obtain ⟨earlier, occurrence, later, split, opened', none⟩ := ih latches
          refine ⟨earlier, occurrence, later ++ [last], ?_, opened', ?_⟩
          · rw [split, List.append_assoc, List.cons_append]
          · intro other member
            rcases List.mem_append.mp member with inside | isLast
            · exact none other inside
            · rw [List.mem_singleton.mp isLast]
              exact opens

theorem latched_none (opened : σ → ι → Option α) (past : List (Event σ ι ο)) (latches : latched opened past = none) :
    ∀ other ∈ past, opened other.before other.input = none := by
  induction past using List.reverseRecOn with
  | nil => simp
  | append_singleton past last ih =>
      rw [latched_snoc, Option.or_eq_none_iff] at latches
      intro other member
      rcases List.mem_append.mp member with inside | isLast
      · exact ih latches.2 other inside
      · rw [List.mem_singleton.mp isLast]
        exact latches.1

-- What every turn opens anew or writes over: while nothing is opened, it is what it was with all
-- that was written over it.
theorem unopened_value (machine : Machine σ ι ο) (opened : σ → ι → Option α) (value : σ → α) (written : σ → ι → α → α)
    (each : ∀ state input, value (machine.step state input).1 =
      (opened state input).getD (written state input (value state))) (start : σ) (inputs : List ι)
    (unopened : ∀ other ∈ machine.trace start inputs, opened other.before other.input = none) :
    value (machine.run start inputs) = (machine.trace start inputs).foldl
      (fun value other => written other.before other.input value) (value start) := by
  induction inputs generalizing start with
  | nil => rfl
  | cons input inputs ih =>
      rw [trace, List.forall_mem_cons] at unopened
      obtain ⟨now, later⟩ := unopened
      have first : value (machine.step start input).1 = written start input (value start) := by
        rw [each, show opened start input = none from now, Option.getD_none]
      rw [run, ih _ later, first]
      rfl

theorem latched_shown (machine : Machine σ ι ο) (opened : σ → ι → Option α) (shown : σ → Option α) (Open : σ → Prop)
    (start : σ) (shut : ¬ Open start) (inputs : List ι)
    (opens : ∀ occurrence ∈ machine.trace start inputs, ∀ value,
      opened occurrence.before occurrence.input = some value → shown occurrence.after = some value)
    (kept : ∀ occurrence ∈ machine.trace start inputs,
      opened occurrence.before occurrence.input = none → Open occurrence.after →
        Open occurrence.before ∧ shown occurrence.after = shown occurrence.before)
    (isOpen : Open (machine.run start inputs)) :
    latched opened (machine.trace start inputs) = shown (machine.run start inputs) := by
  induction inputs using List.reverseRecOn with
  | nil => exact absurd isOpen shut
  | append_singleton inputs input ih =>
      rw [trace_snoc] at opens kept ⊢
      rw [run_snoc] at isOpen ⊢
      rw [latched_snoc]
      have last := List.mem_append_right (machine.trace start inputs)
        (List.mem_singleton_self (event machine (machine.run start inputs) input))
      cases value : opened (machine.run start inputs) input with
      | some value' =>
          have after : shown (machine.step (machine.run start inputs) input).1 = some value' := opens _ last value' value
          rw [after]
          exact congrArg (Option.or · _) value
      | none =>
          have before : Open (machine.run start inputs) ∧
              shown (machine.step (machine.run start inputs) input).1 = shown (machine.run start inputs) :=
            kept _ last value isOpen
          have earlier := ih (fun occurrence member => opens occurrence (List.mem_append_left _ member))
            (fun occurrence member => kept occurrence (List.mem_append_left _ member)) before.1
          rw [before.2, ← earlier]
          exact congrArg (Option.or · _) value

theorem latched_prefixes_iff (machine : Machine σ ι ο) (opened : σ → ι → Option α) (Holds : Option α → σ → Prop)
    (Allowed : σ → ι → Prop)
    (each : ∀ value state input, Holds value state →
      (Holds ((opened state input).or value) (machine.step state input).1 ↔ Allowed state input))
    (start : σ) (initial : Holds none start) (inputs : List ι) :
    (∀ earlier, earlier <+: inputs → Holds (latched opened (machine.trace start earlier)) (machine.run start earlier)) ↔
      ∀ occurrence ∈ machine.trace start inputs, Allowed occurrence.before occurrence.input := by
  induction inputs using List.reverseRecOn with
  | nil => simp [latched, initial]
  | append_singleton inputs input ih =>
      have split : (∀ earlier, earlier <+: inputs ++ [input] →
          Holds (latched opened (machine.trace start earlier)) (machine.run start earlier)) ↔
          (∀ earlier, earlier <+: inputs →
            Holds (latched opened (machine.trace start earlier)) (machine.run start earlier)) ∧
          Holds (latched opened (machine.trace start (inputs ++ [input]))) (machine.run start (inputs ++ [input])) := by
        simp only [List.prefix_concat_iff, or_imp, forall_and, forall_eq]
        exact And.comm
      rw [split, trace_snoc, run_snoc, latched_snoc, List.forall_mem_append, List.forall_mem_singleton, ← ih]
      apply and_congr_right
      intro all
      exact each _ _ input (all inputs List.prefix_rfl)

end Machine
