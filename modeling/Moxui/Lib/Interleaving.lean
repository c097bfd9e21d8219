import Mathlib.Data.List.Perm.Basic
import Moxui.Lib.Machine

set_option autoImplicit false

-- Calls that share a state. A call goes step by step: a step sees the state and what the
-- environment says to it, and leaves the rest of the call or its result.
structure Protocol (σ ι κ η ω : Type) where
  enter : ι → κ
  advance : κ → η → σ → σ × (κ ⊕ ω)

namespace Protocol

structure Pool (σ κ : Type) where
  shared : σ
  calls : List κ

inductive Turn (ι η : Type) where
  | starts (request : ι)
  | advances (index : Nat) (heard : η)

structure Taken (σ κ η ω : Type) where
  before : σ
  call : κ
  heard : η
  after : σ
  left : κ ⊕ ω

def resume {κ ω : Type} (left : κ ⊕ ω) (calls : List κ) : List κ :=
  match left with
  | .inl call => call :: calls
  | .inr _ => calls

theorem mem_resume {κ ω : Type} (left : κ ⊕ ω) (calls : List κ) (call : κ) :
    call ∈ resume left calls ↔ left = .inl call ∨ call ∈ calls := by
  cases left with
  | inl later => simp [resume, eq_comm]
  | inr result => simp [resume]

theorem in_flight_after {κ ω : Type} (before rest : List κ) (call : κ) (perm : before.Perm (call :: rest)) (left : κ ⊕ ω)
    (other : κ) (member : other ∈ resume left rest) : left = .inl other ∨ other ∈ before := by
  rcases (mem_resume left rest other).mp member with mine | waiting
  · exact Or.inl mine
  · exact Or.inr (perm.mem_iff.mpr (List.mem_cons_of_mem call waiting))

theorem exists_resume {κ ω : Type} (P : κ → Prop) (left : κ ⊕ ω) (calls : List κ) :
    (∃ call ∈ resume left calls, P call) ↔ (∃ later, left = .inl later ∧ P later) ∨ ∃ call ∈ calls, P call := by
  simp only [mem_resume, or_and_right, exists_or]

variable {σ ι κ η ω : Type} (protocol : Protocol σ ι κ η ω)

def taken (call : κ) (heard : η) (state : σ) : Taken σ κ η ω :=
  ⟨state, call, heard, (protocol.advance call heard state).1, (protocol.advance call heard state).2⟩

theorem taken_of_advance (call : κ) (heard : η) (state next : σ) (left : κ ⊕ ω)
    (advanced : protocol.advance call heard state = (next, left)) :
    protocol.taken call heard state = ⟨state, call, heard, next, left⟩ := by
  rw [taken, advanced]

-- Any call may come at any time, and any call in flight may take the next step.
def machine : Machine (Pool σ κ) (Turn ι η) (Option (Taken σ κ η ω)) where
  step pool turn :=
    match turn with
    | .starts request => ({ pool with calls := protocol.enter request :: pool.calls }, none)
    | .advances index heard =>
        match pool.calls[index]? with
        | none => (pool, none)
        | some call =>
            let step := protocol.taken call heard pool.shared
            (⟨step.after, resume step.left (pool.calls.eraseIdx index)⟩, some step)

def steps (start : Pool σ κ) (turns : List (Turn ι η)) : List (Taken σ κ η ω) :=
  (protocol.machine.trace start turns).filterMap Machine.Event.output

theorem steps_snoc (start : Pool σ κ) (turns : List (Turn ι η)) (turn : Turn ι η) :
    protocol.steps start (turns ++ [turn]) = protocol.steps start turns ++
      (protocol.machine.step (protocol.machine.run start turns) turn).2.toList := by
  unfold steps
  rw [Machine.trace_snoc, List.filterMap_append]
  rfl

theorem machine_step_found (pool : Pool σ κ) (index : Nat) (heard : η) (call : κ)
    (found : pool.calls[index]? = some call) :
    protocol.machine.step pool (.advances index heard) =
      (⟨(protocol.taken call heard pool.shared).after,
        resume (protocol.taken call heard pool.shared).left (pool.calls.eraseIdx index)⟩,
        some (protocol.taken call heard pool.shared)) := by
  simp only [machine, found]

theorem machine_step_missing (pool : Pool σ κ) (index : Nat) (heard : η) (missing : pool.calls[index]? = none) :
    protocol.machine.step pool (.advances index heard) = (pool, none) := by
  simp only [machine, missing]

theorem machine_step_cases (pool : Pool σ κ) (turn : Turn ι η) :
    (∃ request, protocol.machine.step pool turn =
        ({ pool with calls := protocol.enter request :: pool.calls }, none)) ∨
      protocol.machine.step pool turn = (pool, none) ∨
      ∃ call heard rest, pool.calls.Perm (call :: rest) ∧
        protocol.machine.step pool turn =
          (⟨(protocol.taken call heard pool.shared).after, resume (protocol.taken call heard pool.shared).left rest⟩,
            some (protocol.taken call heard pool.shared)) := by
  cases turn with
  | starts request => exact Or.inl ⟨request, rfl⟩
  | advances index heard =>
      by_cases inside : index < pool.calls.length
      · refine Or.inr (Or.inr ⟨pool.calls[index], heard, pool.calls.eraseIdx index, ?_, ?_⟩)
        · exact (List.getElem_cons_eraseIdx_perm inside).symm
        · exact protocol.machine_step_found pool index heard _ (List.getElem?_eq_getElem inside)
      · have missing := List.getElem?_eq_none (Nat.le_of_not_lt inside)
        exact Or.inr (Or.inl (protocol.machine_step_missing pool index heard missing))

theorem steps_split (start : Pool σ κ) (turns : List (Turn ι η)) (earlier later : List (Taken σ κ η ω))
    (step : Taken σ κ η ω) (split : protocol.steps start turns = earlier ++ step :: later) :
    ∃ before index heard after call, turns = before ++ .advances index heard :: after ∧
      earlier = protocol.steps start before ∧ (protocol.machine.run start before).calls[index]? = some call ∧
      step = protocol.taken call heard (protocol.machine.run start before).shared := by
  obtain ⟨first, second, whole, isEarlier, rest⟩ := List.filterMap_eq_append_iff.mp split
  obtain ⟨silent, occurrence, last, isSecond, quiet, isStep, _⟩ := List.filterMap_eq_cons_iff.mp rest
  rw [isSecond, ← List.append_assoc] at whole
  obtain ⟨before, turn, after, isTurns, isPast, isEvent, _⟩ :=
    Machine.trace_split protocol.machine start turns (first ++ silent) last occurrence whole
  have past : earlier = protocol.steps start before := by
    rw [steps, ← isPast, List.filterMap_append, isEarlier, List.filterMap_eq_nil_iff.mpr quiet, List.append_nil]
  subst isEvent
  cases turn with
  | starts request => cases isStep
  | advances index heard =>
      cases found : (protocol.machine.run start before).calls[index]? with
      | none =>
          rw [Machine.event, protocol.machine_step_missing _ index heard found] at isStep
          cases isStep
      | some call =>
          rw [Machine.event, protocol.machine_step_found _ index heard call found] at isStep
          exact ⟨before, index, heard, after, call, isTurns, past, found, (Option.some.inj isStep).symm⟩

-- What holds at the start, is kept when a call comes in and is kept by each allowed step holds
-- after all runs whose steps are allowed. It may speak of the steps taken so far.
theorem steps_history (start : Pool σ κ) (Allowed : Taken σ κ η ω → Prop)
    (Inv : List (Taken σ κ η ω) → Pool σ κ → Prop) (initial : Inv [] start)
    (entered : ∀ past pool request, Inv past pool → Inv past { pool with calls := protocol.enter request :: pool.calls })
    (advanced : ∀ past pool call heard rest, pool.calls.Perm (call :: rest) →
      Allowed (protocol.taken call heard pool.shared) → Inv past pool →
      Inv (past ++ [protocol.taken call heard pool.shared])
        ⟨(protocol.taken call heard pool.shared).after, resume (protocol.taken call heard pool.shared).left rest⟩)
    (turns : List (Turn ι η)) (allowed : ∀ step ∈ protocol.steps start turns, Allowed step) :
    Inv (protocol.steps start turns) (protocol.machine.run start turns) := by
  induction turns using List.reverseRecOn with
  | nil => exact initial
  | append_singleton turns turn ih =>
      rw [steps_snoc] at allowed ⊢
      rw [Machine.run_snoc]
      have before := ih fun step member => allowed step (List.mem_append_left _ member)
      rcases protocol.machine_step_cases (protocol.machine.run start turns) turn with
        ⟨request, stepped⟩ | stepped | ⟨call, heard, rest, perm, stepped⟩
      · rw [stepped, Option.toList_none, List.append_nil]
        exact entered _ _ request before
      · rw [stepped, Option.toList_none, List.append_nil]
        exact before
      · rw [stepped] at allowed ⊢
        exact advanced _ _ call heard rest perm (allowed _ (by simp)) before

def requests (turns : List (Turn ι η)) : List ι :=
  turns.filterMap fun turn =>
    match turn with
    | .starts request => some request
    | .advances _ _ => none

theorem requests_snoc (turns : List (Turn ι η)) (turn : Turn ι η) :
    requests (turns ++ [turn]) = requests turns ++
      match turn with
      | .starts request => [request]
      | .advances _ _ => [] := by
  rw [requests, List.filterMap_append]
  cases turn <;> rfl

def StepsAllowed (Allowed : List (Taken σ κ η ω) → Pool σ κ → κ → Prop) (start : Pool σ κ)
    (turns : List (Turn ι η)) : Prop :=
  ∀ earlier index heard call, earlier ++ [.advances index heard] <+: turns →
    (protocol.machine.run start earlier).calls[index]? = some call →
    Allowed (protocol.steps start earlier) (protocol.machine.run start earlier) call

theorem steps_allowed_snoc (Allowed : List (Taken σ κ η ω) → Pool σ κ → κ → Prop) (start : Pool σ κ)
    (turns : List (Turn ι η)) (turn : Turn ι η) (allowed : protocol.StepsAllowed Allowed start (turns ++ [turn])) :
    protocol.StepsAllowed Allowed start turns := by
  intro earlier index heard call before found
  exact allowed earlier index heard call (before.trans (List.prefix_append turns [turn])) found

theorem steps_allowed_at (Allowed : List (Taken σ κ η ω) → Pool σ κ → κ → Prop) (start : Pool σ κ)
    (turns : List (Turn ι η))
    (allowed : ∀ position index heard call, turns[position]? = some (.advances index heard) →
      (protocol.machine.run start (turns.take position)).calls[index]? = some call →
      Allowed (protocol.steps start (turns.take position)) (protocol.machine.run start (turns.take position)) call) :
    protocol.StepsAllowed Allowed start turns := by
  intro earlier index heard call ⟨rest, whole⟩ found
  have before : turns.take earlier.length = earlier := by
    rw [← whole, List.append_assoc, List.take_left]
  have taken : turns[earlier.length]? = some (.advances index heard) := by
    rw [← whole, List.append_assoc, List.getElem?_append_right (Nat.le_refl _), Nat.sub_self]
    rfl
  have permitted := allowed earlier.length index heard call taken
  rw [before] at permitted
  exact permitted found

theorem requests_history (start : Pool σ κ) (Allowed : List (Taken σ κ η ω) → Pool σ κ → κ → Prop)
    (Inv : List ι → List (Taken σ κ η ω) → Pool σ κ → Prop) (initial : Inv [] [] start)
    (entered : ∀ wanted past pool request, Inv wanted past pool →
      Inv (wanted ++ [request]) past { pool with calls := protocol.enter request :: pool.calls })
    (advanced : ∀ wanted past pool call heard rest, pool.calls.Perm (call :: rest) → Allowed past pool call →
      Inv wanted past pool → Inv wanted (past ++ [protocol.taken call heard pool.shared])
        ⟨(protocol.taken call heard pool.shared).after, resume (protocol.taken call heard pool.shared).left rest⟩)
    (turns : List (Turn ι η)) (allowed : protocol.StepsAllowed Allowed start turns) :
    Inv (requests turns) (protocol.steps start turns) (protocol.machine.run start turns) := by
  induction turns using List.reverseRecOn with
  | nil => exact initial
  | append_singleton turns turn ih =>
      have before := ih (protocol.steps_allowed_snoc Allowed start turns turn allowed)
      rw [requests_snoc, steps_snoc, Machine.run_snoc]
      cases turn with
      | starts request =>
          have done := entered _ _ _ request before
          rw [← List.append_nil (protocol.steps start turns)] at done
          exact done
      | advances index heard =>
          by_cases inside : index < (protocol.machine.run start turns).calls.length
          · have found := List.getElem?_eq_getElem inside
            have permitted := allowed turns index heard _ (List.prefix_refl _) found
            have others := (List.getElem_cons_eraseIdx_perm inside).symm
            rw [protocol.machine_step_found _ index heard _ found, List.append_nil]
            exact advanced _ _ _ _ heard _ others permitted before
          · have missing := List.getElem?_eq_none (Nat.le_of_not_lt inside)
            rw [protocol.machine_step_missing _ index heard missing, Option.toList_none, List.append_nil, List.append_nil]
            exact before

theorem flat_map_resume {β : Type} (holds : κ → List β) (left : κ ⊕ ω) (rest : List κ) :
    (resume left rest).flatMap holds = (resume left []).flatMap holds ++ rest.flatMap holds := by
  cases left with
  | inl later => simp [resume]
  | inr result => simp [resume]

theorem requests_accounted (shared : σ) (holds : κ → List ι) (spends : Taken σ κ η ω → List ι)
    (enters : ∀ request, holds (protocol.enter request) = [request])
    (spent : ∀ call heard state, (holds call).Perm (spends (protocol.taken call heard state) ++
      (resume (protocol.taken call heard state).left []).flatMap holds)) (turns : List (Turn ι η)) :
    (requests turns).Perm ((protocol.steps ⟨shared, []⟩ turns).flatMap spends ++
      (protocol.machine.run ⟨shared, []⟩ turns).calls.flatMap holds) := by
  apply protocol.requests_history ⟨shared, []⟩ (fun _ _ _ => True)
    (fun wanted past pool => wanted.Perm (past.flatMap spends ++ pool.calls.flatMap holds)) (List.Perm.refl _)
  · intro wanted past pool request accounted
    rw [List.flatMap_cons, enters]
    exact (accounted.append_right [request]).trans (by
      rw [List.append_assoc]
      exact List.perm_append_comm.append_left _)
  · intro wanted past pool call heard rest perm _ accounted
    rw [flat_map_resume, List.flatMap_append, List.flatMap_singleton, List.append_assoc]
    apply accounted.trans
    apply List.Perm.append_left
    apply (perm.flatMap_right holds).trans
    rw [List.flatMap_cons, ← List.append_assoc]
    exact (spent call heard pool.shared).append_right _
  · exact fun _ _ _ _ _ _ => trivial

def alone : List η → κ → σ → σ × (κ ⊕ ω)
  | [], call, state => (state, .inl call)
  | heard :: later, call, state =>
      match protocol.advance call heard state with
      | (next, .inl rest) => alone later rest next
      | (next, .inr result) => (next, .inr result)

theorem run_alone (said : List η) (call : κ) (state final : σ) (result : ω) (calls : List κ)
    (returns : protocol.alone said call state = (final, .inr result)) :
    ∃ used, used <+: said ∧
      protocol.machine.run ⟨state, call :: calls⟩ (used.map (Turn.advances 0)) = ⟨final, calls⟩ := by
  induction said generalizing call state with
  | nil => cases returns
  | cons heard later ih =>
      rcases stepped : protocol.advance call heard state with ⟨next, rest | value⟩
      · simp only [alone, stepped] at returns
        obtain ⟨used, before, ran⟩ := ih rest next returns
        refine ⟨heard :: used, List.cons_prefix_cons.mpr ⟨rfl, before⟩, ?_⟩
        rw [List.map_cons, Machine.run, ← ran]
        simp only [machine, taken, List.getElem?_cons_zero, stepped, resume, List.eraseIdx_zero, List.tail_cons]
      · simp only [alone, stepped, Prod.mk.injEq] at returns
        refine ⟨[heard], List.cons_prefix_cons.mpr ⟨rfl, List.nil_prefix⟩, ?_⟩
        rw [← returns.1, List.map_cons, List.map_nil, Machine.run, Machine.run_nil]
        simp only [machine, taken, List.getElem?_cons_zero, stepped, resume, List.eraseIdx_zero, List.tail_cons]

end Protocol
