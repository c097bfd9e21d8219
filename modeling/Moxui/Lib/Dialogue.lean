import Mathlib.Data.List.Basic

set_option autoImplicit false

-- A program that calls an environment it does not control. `ρ call` is the type of the
-- answers to `call`.
inductive Dialogue (κ : Type) (ρ : κ → Type) (α : Type) : Type where
  | done (value : α)
  | ask (call : κ) (next : ρ call → Dialogue κ ρ α)

namespace Dialogue

variable {κ : Type} {ρ : κ → Type} {α β : Type}

abbrev Exchange (κ : Type) (ρ : κ → Type) : Type :=
  (call : κ) × ρ call

-- An environment answers each call as it likes, knowing all that was said before.
abbrev Oracle (κ : Type) (ρ : κ → Type) : Type :=
  List (Exchange κ ρ) → (call : κ) → ρ call

def bind (first : Dialogue κ ρ α) (next : α → Dialogue κ ρ β) : Dialogue κ ρ β :=
  match first with
  | done value => next value
  | ask call rest => ask call fun answer => bind (rest answer) next

def call (request : κ) : Dialogue κ ρ (ρ request) :=
  ask request done

def run (oracle : Oracle κ ρ) (past : List (Exchange κ ρ)) : Dialogue κ ρ α → List (Exchange κ ρ) × α
  | done value => (past, value)
  | ask call next => run oracle (past ++ [⟨call, oracle past call⟩]) (next (oracle past call))

@[simp] theorem run_done (oracle : Oracle κ ρ) (past : List (Exchange κ ρ)) (value : α) :
    run oracle past (done value) = (past, value) := rfl

@[simp] theorem run_ask (oracle : Oracle κ ρ) (past : List (Exchange κ ρ)) (request : κ)
    (next : ρ request → Dialogue κ ρ α) :
    run oracle past (ask request next) =
      run oracle (past ++ [⟨request, oracle past request⟩]) (next (oracle past request)) := rfl

@[simp] theorem bind_done (value : α) (next : α → Dialogue κ ρ β) : bind (done value) next = next value := rfl

@[simp] theorem bind_ask (request : κ) (rest : ρ request → Dialogue κ ρ α) (next : α → Dialogue κ ρ β) :
    bind (ask request rest) next = ask request fun answer => bind (rest answer) next := rfl

theorem run_bind (oracle : Oracle κ ρ) (past : List (Exchange κ ρ)) (first : Dialogue κ ρ α)
    (next : α → Dialogue κ ρ β) :
    run oracle past (bind first next) = run oracle (run oracle past first).1 (next (run oracle past first).2) := by
  induction first generalizing past with
  | done value => rfl
  | ask request rest ih => exact ih (oracle past request) (past ++ [⟨request, oracle past request⟩])

def Calls : Dialogue κ ρ α → κ → Prop
  | done _, _ => False
  | ask request next, wanted => wanted = request ∨ ∃ answer, Calls (next answer) wanted

@[simp] theorem calls_done (value : α) (wanted : κ) : ¬ Calls (done value : Dialogue κ ρ α) wanted :=
  id

@[simp] theorem calls_ask (request : κ) (next : ρ request → Dialogue κ ρ α) (wanted : κ) :
    Calls (ask request next) wanted ↔ wanted = request ∨ ∃ answer, Calls (next answer) wanted :=
  Iff.rfl

theorem calls_map (first : Dialogue κ ρ α) (finish : α → β) (wanted : κ) :
    Calls (bind first fun value => done (finish value)) wanted ↔ Calls first wanted := by
  induction first with
  | done value => exact Iff.rfl
  | ask request rest ih => simp only [bind_ask, calls_ask, ih]

theorem calls_bind (first : Dialogue κ ρ α) (next : α → Dialogue κ ρ β) (wanted : κ)
    (called : Calls (bind first next) wanted) : Calls first wanted ∨ ∃ value, Calls (next value) wanted := by
  induction first with
  | done value => exact Or.inr ⟨value, called⟩
  | ask request rest ih =>
      rcases called with same | ⟨answer, later⟩
      · exact Or.inl (Or.inl same)
      · rcases ih answer later with early | afterwards
        · exact Or.inl (Or.inr ⟨answer, early⟩)
        · exact Or.inr afterwards

def Ends (Post : α → Prop) : Dialogue κ ρ α → Prop
  | done value => Post value
  | ask _ next => ∀ answer, Ends Post (next answer)

theorem ends_bind (Middle : α → Prop) (Post : β → Prop) (first : Dialogue κ ρ α) (next : α → Dialogue κ ρ β)
    (ends : Ends Middle first) (rest : ∀ value, Middle value → Ends Post (next value)) : Ends Post (bind first next) := by
  induction first with
  | done value => exact rest value ends
  | ask request later ih => exact fun answer => ih answer (ends answer)

theorem ends_anyhow (program : Dialogue κ ρ α) : Ends (fun _ => True) program := by
  induction program with
  | done value => trivial
  | ask request next ih => exact ih

theorem ends_map (Post : β → Prop) (first : Dialogue κ ρ α) (finish : α → β) (all : ∀ value, Post (finish value)) :
    Ends Post (bind first fun value => done (finish value)) :=
  ends_bind _ Post first _ (ends_anyhow first) fun value _ => all value

theorem ends_run (Post : α → Prop) (oracle : Oracle κ ρ) (past : List (Exchange κ ρ)) (program : Dialogue κ ρ α)
    (ends : Ends Post program) : Post (run oracle past program).2 := by
  induction program generalizing past with
  | done value => exact ends
  | ask request next ih => exact ih _ _ (ends _)

theorem run_extends (oracle : Oracle κ ρ) (past : List (Exchange κ ρ)) (program : Dialogue κ ρ α) :
    past <+: (run oracle past program).1 := by
  induction program generalizing past with
  | done value => exact List.prefix_refl past
  | ask request next ih => exact (List.prefix_append past _).trans (ih _ _)

theorem run_after (oracle later : Oracle κ ρ) (earlier : List (Exchange κ ρ))
    (follows : ∀ past, later (earlier ++ past) = oracle past) (past : List (Exchange κ ρ)) (program : Dialogue κ ρ α) :
    (run later (earlier ++ past) program).1 = earlier ++ (run oracle past program).1 := by
  induction program generalizing past with
  | done value => rfl
  | ask request next ih =>
      rw [run_ask, run_ask, follows past, List.append_assoc]
      exact ih _ _

theorem calls_iff_run [∀ request, Nonempty (ρ request)] (program : Dialogue κ ρ α) (wanted : κ) :
    Calls program wanted ↔ ∃ oracle, ∃ answer, ⟨wanted, answer⟩ ∈ (run oracle [] program).1 := by
  classical
  induction program with
  | done value =>
      refine ⟨False.elim, ?_⟩
      rintro ⟨oracle, answer, impossible⟩
      cases impossible
  | ask request next ih =>
      refine ⟨?_, ?_⟩
      · rintro (same | ⟨answer, later⟩)
        · subst wanted
          let oracle : Oracle κ ρ := fun _ asked => Classical.choice inferInstance
          refine ⟨oracle, oracle [] request, ?_⟩
          exact (run_extends oracle _ (next (oracle [] request))).subset (by simp)
        · obtain ⟨oracle, said, heard⟩ := (ih answer).mp later
          let first : (asked : κ) → ρ asked := fun asked =>
            if same : asked = request then same ▸ answer else Classical.choice inferInstance
          have firstAnswer : first request = answer := by simp [first]
          let longer : Oracle κ ρ := fun past => match past with
            | [] => first
            | _ :: rest => oracle rest
          refine ⟨longer, said, ?_⟩
          have opened : longer [] request = answer := firstAnswer
          rw [run_ask, opened, List.nil_append]
          have continued := run_after oracle longer [⟨request, answer⟩] (fun _ => rfl) [] (next answer)
          rw [List.append_nil] at continued
          rw [continued]
          exact List.mem_append_right _ heard
      · rintro ⟨oracle, answer, heard⟩
        rw [run_ask, List.nil_append] at heard
        let shorter : Oracle κ ρ := fun past => oracle (⟨request, oracle [] request⟩ :: past)
        have continued := run_after shorter oracle [⟨request, oracle [] request⟩] (fun _ => rfl) []
          (next (oracle [] request))
        rw [List.append_nil] at continued
        rw [continued] at heard
        rcases List.mem_append.mp heard with atOnce | afterwards
        · cases List.mem_singleton.mp atOnce
          exact Or.inl rfl
        · exact Or.inr ⟨_, (ih _).mpr ⟨shorter, answer, afterwards⟩⟩

def Alike (chosen : κ → Prop) [DecidablePred chosen] (first second : Oracle κ ρ) : Prop :=
  ∀ earlier later call, chosen call →
    (earlier.filter fun exchange => chosen exchange.1) = later.filter (fun exchange => chosen exchange.1) →
      first earlier call = second later call

-- A program that makes none but chosen calls cannot tell the two apart.
theorem run_alike (chosen : κ → Prop) [DecidablePred chosen] (first second : Oracle κ ρ)
    (alike : Alike chosen first second) (program : Dialogue κ ρ α) (every : ∀ call, Calls program call → chosen call)
    (past : List (Exchange κ ρ)) : run first past program = run second past program := by
  induction program generalizing past with
  | done value => rfl
  | ask request next ih =>
      have answer := alike past past request (every request (Or.inl rfl)) rfl
      rw [run_ask, run_ask, answer]
      exact ih _ (fun call called => every call (Or.inr ⟨_, called⟩)) _

end Dialogue
