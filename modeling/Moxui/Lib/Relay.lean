import Mathlib.Data.List.Infix
import Moxui.Lib.Machine

set_option autoImplicit false

namespace Relay

-- What is to be done about a message: send something and go on only if that succeeds, send
-- something and go on anyway, send something as the last thing, or nothing at all.
inductive Handling (ν : Type) where
  | insist (message : ν)
  | attempt (message : ν)
  | finish (message : ν)
  | skip

-- A turn of a pump: a message came in, and the connection it would be sent on works or does
-- not; or no message can come any more.
inductive Heard (μ : Type) where
  | message (received : μ) (works : Bool)
  | closed

structure Pump (ν : Type) where
  delivered : List ν
  running : Bool

section Pump

variable {μ ν : Type}

def Pump.fresh : Pump ν :=
  { delivered := [], running := true }

def Pump.send (pump : Pump ν) (message : ν) (works : Bool) : Pump ν :=
  { pump with delivered := pump.delivered ++ if works then [message] else [] }

variable (handling : μ → Handling ν)

def Pump.handle (pump : Pump ν) (received : μ) (works : Bool) : Pump ν :=
  match handling received with
  | .insist message => { pump.send message works with running := works }
  | .attempt message => pump.send message works
  | .finish message => { pump.send message works with running := false }
  | .skip => pump

def Pump.turn (pump : Pump ν) (heard : Heard μ) : Pump ν :=
  if pump.running then
    match heard with
    | .message received works => pump.handle handling received works
    | .closed => { pump with running := false }
  else pump

def Pump.turns (pump : Pump ν) (heard : List (Heard μ)) : Pump ν :=
  heard.foldl (Pump.turn handling) pump

def Handling.message? : Handling ν → Option ν
  | .insist message | .attempt message | .finish message => some message
  | .skip => none

def Handling.insisted : Handling ν → Option ν
  | .insist message => some message
  | _ => none

def Handling.finishes : Handling ν → Bool
  | .finish _ => true
  | _ => false

def Heard.received : Heard μ → Option μ
  | .message received _ => some received
  | .closed => none

def received (heard : List (Heard μ)) : List μ :=
  heard.filterMap Heard.received

structure Sorted (kind : ν → Bool) : Prop where
  insisted : ∀ received message, handling received = .insist message → kind message = true
  attempted : ∀ received message, handling received = .attempt message → kind message = false
  finished : ∀ received message, handling received = .finish message → kind message = false

-- What a pump gains from what it hears: nothing but what the messages call for, in their
-- order, and of what is insisted on everything up to some point, or everything as long as it runs.
structure Gains (kind : ν → Bool) (heard : List (Heard μ)) (before after : Pump ν) (gained : List ν) : Prop where
  delivered : after.delivered = before.delivered ++ gained
  ordered : gained.Sublist ((received heard).filterMap fun message => (handling message).message?)
  started : gained.filter kind <+: (received heard).filterMap fun message => (handling message).insisted
  whole : after.running = true →
    gained.filter kind = (received heard).filterMap fun message => (handling message).insisted

variable {handling}

@[simp] theorem received_nil : received ([] : List (Heard μ)) = [] := rfl

@[simp] theorem received_cons_message (message : μ) (works : Bool) (heard : List (Heard μ)) :
    received (.message message works :: heard) = message :: received heard := rfl

@[simp] theorem received_cons_closed (heard : List (Heard μ)) : received (.closed :: heard) = received heard := rfl

theorem turns_stopped (pump : Pump ν) (heard : List (Heard μ)) (stopped : pump.running = false) :
    pump.turns handling heard = pump := by
  induction heard with
  | nil => rfl
  | cons next rest ih =>
      have still : pump.turn handling next = pump := by
        simp only [Pump.turn, stopped, Bool.false_eq_true, if_false]
      rw [Pump.turns, List.foldl_cons, still]
      exact ih

theorem received_append (earlier later : List (Heard μ)) :
    received (earlier ++ later) = received earlier ++ received later :=
  List.filterMap_append

variable {kind : ν → Bool}

theorem gains_nothing (heard : List (Heard μ)) (before after : Pump ν) (same : after.delivered = before.delivered)
    (insisted : after.running = true →
      (received heard).filterMap (fun message => (handling message).insisted) = []) :
    Gains handling kind heard before after [] where
  delivered := by rw [same, List.append_nil]
  ordered := List.nil_sublist _
  started := List.nil_prefix
  whole := fun running => (insisted running).symm

theorem send_gains (pump after : Pump ν) (message : μ) (sent : ν) (works : Bool)
    (calls : (handling message).message? = some sent)
    (delivered : after.delivered = (pump.send sent works).delivered)
    (insists : (if kind sent then some sent else none) = (handling message).insisted)
    (runs : after.running = true → kind sent = true → works = true) :
    ∃ gained, Gains handling kind [.message message works] pump after gained := by
  refine ⟨if works then [sent] else [], delivered, ?_, ?_, ?_⟩
  · simp only [received_cons_message, received_nil, List.filterMap_cons, calls, List.filterMap_nil]
    split
    · exact List.Sublist.refl _
    · exact List.nil_sublist _
  · cases works with
    | false => exact List.nil_prefix
    | true =>
        simp only [received_cons_message, received_nil, List.filterMap_cons, ← insists, List.filterMap_nil, if_true]
        cases kinds : kind sent <;> simp [kinds]
  · intro running
    simp only [received_cons_message, received_nil, List.filterMap_cons, ← insists, List.filterMap_nil]
    cases kinds : kind sent with
    | false => cases works <;> simp [kinds]
    | true => simp [runs running kinds, kinds]

theorem turn_gains (sorted : Sorted handling kind) (pump : Pump ν) (heard : Heard μ) (running : pump.running = true) :
    ∃ gained, Gains handling kind [heard] pump (pump.turn handling heard) gained := by
  simp only [Pump.turn, running, if_true]
  cases heard with
  | closed => exact ⟨[], gains_nothing _ _ _ rfl fun _ => rfl⟩
  | message message works =>
      dsimp only
      unfold Pump.handle
      cases calls : handling message with
      | insist sent =>
          refine send_gains pump _ message sent works (by rw [calls]; rfl) rfl ?_ ?_
          · rw [sorted.insisted message sent calls, calls]
            rfl
          · exact fun works _ => works
      | attempt sent =>
          have plain := sorted.attempted message sent calls
          refine send_gains pump _ message sent works (by rw [calls]; rfl) rfl ?_ ?_
          · rw [plain, calls]
            rfl
          · intro _ insisted
            rw [plain] at insisted
            cases insisted
      | finish sent =>
          refine send_gains pump _ message sent works (by rw [calls]; rfl) rfl ?_ ?_
          · rw [sorted.finished message sent calls, calls]
            rfl
          · intro impossible
            cases impossible
      | skip =>
          refine ⟨[], gains_nothing _ _ _ rfl fun _ => ?_⟩
          simp only [received_cons_message, received_nil, List.filterMap_cons, calls, Handling.insisted, List.filterMap_nil]

theorem gains_stopped (earlier later : List (Heard μ)) (before after : Pump ν) (gained : List ν)
    (stopped : after.running = false) (gains : Gains handling kind earlier before after gained) :
    Gains handling kind (earlier ++ later) before after gained where
  delivered := gains.delivered
  ordered := by
    rw [received_append, List.filterMap_append]
    exact gains.ordered.trans (List.sublist_append_left _ _)
  started := by
    rw [received_append, List.filterMap_append]
    exact gains.started.trans (List.prefix_append _ _)
  whole := by
    intro running
    rw [stopped] at running
    cases running

theorem gains_trans (earlier later : List (Heard μ)) (before between after : Pump ν) (first second : List ν)
    (running : between.running = true) (early : Gains handling kind earlier before between first)
    (late : Gains handling kind later between after second) :
    Gains handling kind (earlier ++ later) before after (first ++ second) where
  delivered := by rw [late.delivered, early.delivered, List.append_assoc]
  ordered := by
    rw [received_append, List.filterMap_append]
    exact early.ordered.append late.ordered
  started := by
    rw [received_append, List.filterMap_append, List.filter_append, early.whole running]
    exact List.prefix_append_right_inj _ |>.mpr late.started
  whole := by
    intro runs
    rw [received_append, List.filterMap_append, List.filter_append, early.whole running, late.whole runs]

theorem turns_gain (sorted : Sorted handling kind) (heard : List (Heard μ)) (pump : Pump ν)
    (running : pump.running = true) :
    ∃ gained, Gains handling kind heard pump (pump.turns handling heard) gained := by
  induction heard generalizing pump with
  | nil => exact ⟨[], gains_nothing [] pump pump rfl fun _ => rfl⟩
  | cons next rest ih =>
      obtain ⟨first, atOnce⟩ := turn_gains sorted pump next running
      cases runs : (pump.turn handling next).running with
      | false =>
          have ends : pump.turns handling (next :: rest) = pump.turn handling next := turns_stopped _ rest runs
          rw [ends]
          exact ⟨first, gains_stopped [next] rest pump _ first runs atOnce⟩
      | true =>
          obtain ⟨second, later⟩ := ih (pump.turn handling next) runs
          exact ⟨first ++ second, gains_trans [next] rest pump _ _ first second runs atOnce later⟩

variable (handling)

def Stops : Heard μ → Prop
  | .message received works =>
      match handling received with
      | .insist _ => works = false
      | .finish _ => True
      | _ => False
  | .closed => True

theorem turn_running_iff (pump : Pump ν) (heard : Heard μ) (running : pump.running = true) :
    (pump.turn handling heard).running = true ↔ ¬ Stops handling heard := by
  simp only [Pump.turn, running, if_true]
  cases heard with
  | closed => simp [Stops]
  | message message works =>
      simp only [Pump.handle, Stops]
      cases handling message <;> simp [Pump.send, running]

theorem turns_running_iff (heard : List (Heard μ)) (pump : Pump ν) (running : pump.running = true) :
    (pump.turns handling heard).running = true ↔ ∀ next ∈ heard, ¬ Stops handling next := by
  induction heard generalizing pump with
  | nil => simp [Pump.turns, running]
  | cons next rest ih =>
      have first := turn_running_iff handling pump next running
      rw [List.forall_mem_cons, ← first]
      cases runs : (pump.turn handling next).running with
      | false =>
          have ends : pump.turns handling (next :: rest) = pump.turn handling next := turns_stopped _ rest runs
          simp [ends, runs]
      | true => exact (ih (pump.turn handling next) runs).trans (by simp)

def through : List μ → List μ
  | [] => []
  | message :: rest => message :: if (handling message).finishes then [] else through rest

theorem turns_working (messages : List μ) (pump : Pump ν) (running : pump.running = true) :
    (pump.turns handling (messages.map fun message => .message message true)).delivered =
      pump.delivered ++ (through handling messages).filterMap fun message => (handling message).message? := by
  induction messages generalizing pump with
  | nil => exact (List.append_nil _).symm
  | cons message rest ih =>
      have first : pump.turn handling (.message message true) = pump.handle handling message true := by
        simp only [Pump.turn, running, if_true]
      rw [List.map_cons, Pump.turns, List.foldl_cons, first, ← Pump.turns, through, List.filterMap_cons]
      cases calls : handling message with
      | finish sent =>
          have stopped : (pump.handle handling message true).running = false := by simp only [Pump.handle, calls]
          rw [turns_stopped _ _ stopped]
          simp [Pump.handle, calls, Handling.message?, Handling.finishes, Pump.send]
      | insist sent =>
          rw [ih _ (by simp only [Pump.handle, calls])]
          simp [Pump.handle, calls, Handling.message?, Handling.finishes, Pump.send]
      | attempt sent =>
          rw [ih _ (by simp only [Pump.handle, calls, Pump.send, running])]
          simp [Pump.handle, calls, Handling.message?, Handling.finishes, Pump.send]
      | skip =>
          rw [ih _ (by simp only [Pump.handle, calls, running])]
          simp [Pump.handle, calls, Handling.message?, Handling.finishes]

end Pump

section Duplex

variable {μ ν : Type}

structure Duplex (μ ν : Type) where
  toRight : Pump ν
  toLeft : Pump μ

inductive Turn (μ ν : Type) where
  | left (heard : Heard μ)
  | right (heard : Heard ν)

def Turn.fromLeft : Turn μ ν → Option (Heard μ)
  | .left heard => some heard
  | .right _ => none

def Turn.fromRight : Turn μ ν → Option (Heard ν)
  | .left _ => none
  | .right heard => some heard

variable (leftHandling : μ → Handling ν) (rightHandling : ν → Handling μ)

def duplex : Machine (Duplex μ ν) (Turn μ ν) Unit where
  step state turn :=
    match turn with
    | .left heard => ({ state with toRight := state.toRight.turn leftHandling heard }, ())
    | .right heard => ({ state with toLeft := state.toLeft.turn rightHandling heard }, ())

-- In whatever order the two tasks take their turns, neither notices the other.
theorem duplex_run (start : Duplex μ ν) (turns : List (Turn μ ν)) :
    (duplex leftHandling rightHandling).run start turns =
      ⟨start.toRight.turns leftHandling (turns.filterMap Turn.fromLeft),
        start.toLeft.turns rightHandling (turns.filterMap Turn.fromRight)⟩ := by
  induction turns generalizing start with
  | nil => rfl
  | cons turn turns ih =>
      rw [Machine.run, ih]
      cases turn <;> rfl

end Duplex

end Relay
