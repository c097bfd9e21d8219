import Moxui.Proxmox.Transport

set_option autoImplicit false

namespace Moxui.Proxmox

open Moxui.Api (AppError Json)

section Enforced

def ClientCall.awaits : ClientCall → Option (List Redirect)
  | .loggingIn _ followed => some followed
  | .waiting _ _ followed => some followed
  | _ => none

-- A call is at one of the three points where something goes out: before the post for its ticket, before its
-- own request, and where an exchange is redirected that was not yet redirected ten times.
def GoesOut (step : ClientStep) : Prop :=
  step.heard.cutOff = none ∧
    ((∃ next, step.call = .asking next) ∨ (∃ transport ticket, step.call = .sending transport ticket) ∨
      step.heard.redirect ≠ none ∧ ∃ followed, step.call.awaits = some followed ∧ followed.length < redirectLimit)

def WhileOpen (step : ClientStep) : Prop :=
  step.before.breaker.state step.heard.now = .opened

instance (step : ClientStep) : Decidable (WhileOpen step) :=
  inferInstanceAs (Decidable (step.before.breaker.state step.heard.now = .opened))

def NothingSentWhileOpen (base : String) (start : ClientState) (turns : List ClientTurn) : Prop :=
  ∀ step ∈ clientProtocol.steps ⟨start, []⟩ turns, WhileOpen step → sent base step = none

def Ticketed (call : ClientCall) (ticket : Option Ticket) : Prop :=
  ∀ transport, call = .holding transport → ticket.isSome = true

-- Nothing but its place in the program and a redirect decides whether a call sends something.
theorem sends_iff (base : String) (call : ClientCall) (wake : Wake) (state : ClientState) :
    (sent base (clientProtocol.taken call wake state)).isSome = true ↔ GoesOut (clientProtocol.taken call wake state) := by
  have move := client_move call wake state
  simp only [sent, GoesOut, Protocol.taken, clientProtocol]
  generalize advanceClient call wake state = after at move ⊢
  cases move with
  | cutOff call message isCut => exact iff_of_false (by simp) (by simp [isCut])
  | refreshes transport uncut => exact iff_of_false (by simp) (by simp [ClientCall.awaits])
  | passes transport ticket uncut held fresh => exact iff_of_false (by simp) (by simp [ClientCall.awaits])
  | posts next uncut => exact iff_of_true rfl ⟨uncut, Or.inl ⟨next, rfl⟩⟩
  | postsOn next followed redirect uncut sentOn room =>
      refine iff_of_true rfl ⟨uncut, Or.inr (Or.inr ⟨?_, followed, rfl, room⟩)⟩
      rw [sentOn]
      exact Option.some_ne_none redirect
  | unticketed next followed after error uncut same full none =>
      refine iff_of_false (by simp) ?_
      simpa [ClientCall.awaits] using fun _ => full
  | granted next followed after ticket uncut stored brings =>
      refine iff_of_false (by cases next <;> simp [loggedIn]) ?_
      simp [ClientCall.awaits, brings.1]
  | reads transport ticket uncut held => exact iff_of_false (by simp) (by simp [ClientCall.awaits])
  | misses transport uncut missing => exact iff_of_false (by simp) (by simp [ClientCall.awaits])
  | sends transport ticket uncut => exact iff_of_true rfl ⟨uncut, Or.inr (Or.inl ⟨transport, ticket, rfl⟩)⟩
  | sendsOn transport ticket followed redirect uncut sentOn room =>
      refine iff_of_true rfl ⟨uncut, Or.inr (Or.inr ⟨?_, followed, rfl, room⟩)⟩
      rw [sentOn]
      exact Option.some_ne_none redirect
  | fails transport ticket followed after error uncut same full none =>
      refine iff_of_false (by simp) ?_
      simpa [ClientCall.awaits] using fun _ => full
  | answered transport ticket followed after data uncut same brings =>
      refine iff_of_false (by simp) ?_
      simp [ClientCall.awaits, brings.1]

theorem ticket_kept (call : ClientCall) (wake : Wake) (state : ClientState) (held : state.ticket.isSome = true) :
    (clientProtocol.taken call wake state).after.ticket.isSome = true := by
  have move := client_move call wake state
  simp only [Protocol.taken, clientProtocol]
  generalize advanceClient call wake state = after at move ⊢
  cases move with
  | unticketed next followed after error uncut same full none => rw [same, held]
  | granted next followed after ticket uncut stored brings => rw [stored, Option.isSome_some]
  | fails transport ticket followed after error uncut same full none => rw [same, held]
  | answered transport ticket followed after data uncut same brings => rw [same, held]
  | _ => exact held

theorem left_ticketed (call : ClientCall) (wake : Wake) (state : ClientState) (later : ClientCall)
    (left : (clientProtocol.taken call wake state).left = .inl later) :
    Ticketed later (clientProtocol.taken call wake state).after.ticket := by
  have move := client_move call wake state
  simp only [Protocol.taken, clientProtocol] at left ⊢
  generalize advanceClient call wake state = after at move left ⊢
  intro transport isHolding
  subst later
  cases move with
  | granted next followed after ticket uncut stored brings => rw [stored, Option.isSome_some]
  | passes transport ticket uncut held fresh => rw [held, Option.isSome_some]
  | _ => cases left

theorem steps_ticketed (start : ClientState) (turns : List ClientTurn) :
    ∀ step ∈ clientProtocol.steps ⟨start, []⟩ turns,
      ∃ call wake state, step = clientProtocol.taken call wake state ∧ Ticketed call state.ticket := by
  have inv := clientProtocol.steps_history ⟨start, []⟩ (fun _ => True)
    (fun past pool => (∀ step ∈ past, ∃ call wake state, step = clientProtocol.taken call wake state ∧
      Ticketed call state.ticket) ∧ ∀ call ∈ pool.calls, Ticketed call pool.shared.ticket)
    ⟨by simp, by simp⟩
    (by
      intro past pool request before
      refine ⟨before.1, ?_⟩
      intro call member
      rcases List.mem_cons.mp member with isNew | older
      · intro transport isHolding
        rw [isNew] at isHolding
        cases request <;> cases isHolding
      · exact before.2 call older)
    (by
      intro past pool call wake rest perm _ before
      have own := before.2 call (perm.mem_iff.mpr List.mem_cons_self)
      refine ⟨?_, ?_⟩
      · intro step member
        rcases List.mem_append.mp member with earlier | isLast
        · exact before.1 step earlier
        · exact ⟨call, wake, pool.shared, List.mem_singleton.mp isLast, own⟩
      · intro other member
        rcases Protocol.in_flight_after pool.calls rest call perm _ other member with left | waiting
        · exact left_ticketed call wake pool.shared other left
        · intro transport isHolding
          exact ticket_kept call wake pool.shared
            (before.2 other waiting transport isHolding))
    turns (fun _ _ => trivial)
  exact inv.1

theorem nothing_sent_while_open_iff (base : String) (start : ClientState) (turns : List ClientTurn) :
    NothingSentWhileOpen base start turns ↔
      ∀ step ∈ clientProtocol.steps ⟨start, []⟩ turns, GoesOut step → ¬ WhileOpen step := by
  refine forall₂_congr fun step member => ?_
  obtain ⟨call, wake, state, same, _⟩ := steps_ticketed start turns step member
  have sends := sends_iff base call wake state
  rw [same]
  refine ⟨?_, ?_⟩
  · intro quiet goesOut opened
    have something := sends.mpr goesOut
    rw [quiet opened] at something
    cases something
  · intro never opened
    by_contra something
    exact never (sends.mp (Option.isSome_iff_ne_none.mpr something)) opened

end Enforced

def refusing500 (now : UInt64) : Heard :=
  { now := now, ticketReply := .answered ⟨500, "500 Internal Server Error"⟩ (.error "expected value")
    reply := .answered ⟨500, "500 Internal Server Error"⟩ (.error "expected value") }

def refusedLogin (now : UInt64) : List ClientTurn :=
  [.starts .login, .advances 0 (refusing500 now).last, .advances 0 (refusing500 now).last]

-- Five logins are refused and open the circuit; a second later a request goes out all the same.
def openedAndCalled : List ClientTurn :=
  (List.replicate 5 (refusedLogin 1000)).flatten ++
    [.starts (.send (.get "version")), .advances 0 (refusing500 1001).last, .advances 0 (refusing500 1001).last]

theorem request_sent_while_open :
    ¬ NothingSentWhileOpen "https://prod.local:8006" ClientState.new openedAndCalled := by
  intro quiet
  have found : (clientProtocol.steps ⟨ClientState.new, []⟩ openedAndCalled).any (fun step =>
      WhileOpen step && (sent "https://prod.local:8006" step).isSome) = true := by
    decide +kernel
  obtain ⟨step, member, both⟩ := List.any_eq_true.mp found
  obtain ⟨opened, something⟩ := Bool.and_eq_true_iff.mp both
  rw [quiet step member (of_decide_eq_true opened)] at something
  cases something

end Moxui.Proxmox
