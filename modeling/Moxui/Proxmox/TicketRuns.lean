import Moxui.Proxmox.Transport

set_option autoImplicit false

namespace Moxui.Proxmox

open Moxui.Api (AppError)

-- Where a call of `current_ticket` stands: before the check of `ensure_ticket`, waiting for the
-- login, before it reads the ticket. `caller` tells the calls apart.
inductive TicketCall where
  | checking (caller : Nat)
  | loggingIn (caller : Nat)
  | reading (caller : Nat)
deriving DecidableEq, Repr

def TicketCall.caller : TicketCall → Nat
  | checking caller => caller
  | loggingIn caller => caller
  | reading caller => caller

abbrev TicketOutcome : Type :=
  Except AppError Ticket

def login (heard : Heard) (state : ClientState) : ClientState × Except AppError Unit :=
  match heard.ticketReply with
  | .failed reason => (state, .error (.proxmox reason))
  | .timedOut reason => (state, .error (.proxmox reason))
  | .answered status body =>
      if status.isSuccess then
        match body with
        | .error reason => (state, .error (.proxmox reason))
        | .ok ticket => ({ state with ticket := some ticket, breaker := state.breaker.recordSuccess }, .ok ())
      else ({ state with breaker := state.breaker.recordFailure heard.now },
        .error (.proxmox ("Login failed with status " ++ status.shown)))

def advanceTicket (call : TicketCall) (heard : Heard) (state : ClientState) :
    ClientState × (TicketCall ⊕ TicketOutcome) :=
  match call with
  | .checking caller =>
      if shouldRefresh heard.now state.ticket then (state, .inl (.loggingIn caller))
      else (state, .inl (.reading caller))
  | .loggingIn caller =>
      match login heard state with
      | (next, .ok _) => (next, .inl (.reading caller))
      | (next, .error error) => (next, .inr (.error error))
  | .reading _ =>
      match state.ticket with
      | none => (state, .inr (.error ticketMissing))
      | some ticket => (state, .inr (.ok ticket))

def ticketProtocol : Protocol ClientState Nat TicketCall Heard TicketOutcome where
  enter := TicketCall.checking
  advance := advanceTicket

abbrev TicketStep : Type :=
  Protocol.Taken ClientState TicketCall Heard TicketOutcome

def secondsLeft (now : UInt64) (ticket : Ticket) : Int :=
  ticket.expiresAt.toInt - now.toInt64.toInt

def Stores (step : TicketStep) (ticket : Ticket) : Prop :=
  step.call = .loggingIn step.call.caller ∧ step.left = .inl (.reading step.call.caller) ∧ step.after.ticket = some ticket

def StoredBefore (steps : List TicketStep) (moment : Nat) (ticket : Ticket) : Prop :=
  ∃ earlier step, earlier < moment ∧ steps[earlier]? = some step ∧ Stores step ticket

-- At the caller's check the ticket had five minutes left, or a login has stored it since.
def Covered (steps : List TicketStep) (moment caller : Nat) (ticket : Ticket) : Prop :=
  ∃ checkedAt check, checkedAt < moment ∧ steps[checkedAt]? = some check ∧ check.call = .checking caller ∧
    ((check.before.ticket = some ticket ∧ 300 ≤ secondsLeft check.heard.now ticket) ∨
      ∃ later step, checkedAt < later ∧ later < moment ∧ steps[later]? = some step ∧ Stores step ticket)

structure TicketsAcquired (steps : List TicketStep) : Prop where
  noneMissing : ∀ step ∈ steps, step.left ≠ .inr (.error ticketMissing)
  returned : ∀ moment step ticket, steps[moment]? = some step → step.left = .inr (.ok ticket) →
    StoredBefore steps moment ticket ∧ Covered steps moment step.call.caller ticket

-- The difference that a check computes is one of the i64.
def DifferenceFits (step : TicketStep) : Prop :=
  ∀ ticket ∈ step.before.ticket, step.call = .checking step.call.caller → -2 ^ 63 ≤ secondsLeft step.heard.now ticket

instance (step : TicketStep) : Decidable (DifferenceFits step) :=
  inferInstanceAs (Decidable (∀ ticket ∈ step.before.ticket, step.call = .checking step.call.caller →
    -2 ^ 63 ≤ secondsLeft step.heard.now ticket))

theorem fresh_seconds_left (now : UInt64) (ticket : Ticket) (fresh : shouldRefresh now (some ticket) = false)
    (fits : -2 ^ 63 ≤ secondsLeft now ticket) : 300 ≤ secondsLeft now ticket := by
  have low := ticket.expiresAt.toInt_lt
  have bound := now.toInt64.le_toInt
  simp only [shouldRefresh, decide_eq_false_iff_not, Int64.lt_iff_toInt_lt, Int64.toInt_sub] at fresh
  have limit : refreshBeforeSecs.toInt = 300 := by decide
  rw [limit] at fresh
  unfold secondsLeft at fits ⊢
  rw [Int.bmod_def] at fresh
  omega

theorem login_cases (heard : Heard) (state : ClientState) :
    (∃ ticket next, next.ticket = some ticket ∧ login heard state = (next, .ok ())) ∨
    ∃ reason next, next.ticket = state.ticket ∧ login heard state = (next, .error (.proxmox reason)) := by
  unfold login
  cases heard.ticketReply with
  | failed reason => exact Or.inr ⟨reason, state, rfl, rfl⟩
  | timedOut reason => exact Or.inr ⟨reason, state, rfl, rfl⟩
  | answered status body =>
      by_cases success : status.isSuccess = true
      · cases body with
        | error reason => exact Or.inr ⟨reason, state, rfl, by simp [success]⟩
        | ok ticket => exact Or.inl ⟨ticket, _, rfl, if_pos success⟩
      · exact Or.inr ⟨_, { state with breaker := state.breaker.recordFailure heard.now }, rfl, if_neg success⟩

theorem advance_ticket_cases (call : TicketCall) (heard : Heard) (state : ClientState) :
    (∃ caller, call = .checking caller ∧ advanceTicket call heard state = (state, .inl (.loggingIn caller))) ∨
    (∃ caller ticket, call = .checking caller ∧ state.ticket = some ticket ∧
      shouldRefresh heard.now (some ticket) = false ∧ advanceTicket call heard state = (state, .inl (.reading caller))) ∨
    (∃ caller next ticket, call = .loggingIn caller ∧ next.ticket = some ticket ∧
      advanceTicket call heard state = (next, .inl (.reading caller))) ∨
    (∃ caller next reason, call = .loggingIn caller ∧ next.ticket = state.ticket ∧
      advanceTicket call heard state = (next, .inr (.error (.proxmox reason)))) ∨
    (∃ caller, call = .reading caller ∧ state.ticket = none ∧
      advanceTicket call heard state = (state, .inr (.error ticketMissing))) ∨
    ∃ caller ticket, call = .reading caller ∧ state.ticket = some ticket ∧
      advanceTicket call heard state = (state, .inr (.ok ticket)) := by
  cases call with
  | checking caller =>
      cases held : state.ticket with
      | none => exact Or.inl ⟨caller, rfl, by simp [advanceTicket, held, shouldRefresh]⟩
      | some ticket =>
          cases stale : shouldRefresh heard.now (some ticket) with
          | true => exact Or.inl ⟨caller, rfl, by simp [advanceTicket, held, stale]⟩
          | false => exact Or.inr (Or.inl ⟨caller, ticket, rfl, rfl, stale, by simp [advanceTicket, held, stale]⟩)
  | loggingIn caller =>
      rcases login_cases heard state with ⟨ticket, next, stored, done⟩ | ⟨reason, next, kept, done⟩
      · exact Or.inr (Or.inr (Or.inl ⟨caller, next, ticket, rfl, stored, by rw [advanceTicket, done]⟩))
      · exact Or.inr (Or.inr (Or.inr (Or.inl ⟨caller, next, reason, rfl, kept, by rw [advanceTicket, done]⟩)))
  | reading caller =>
      cases held : state.ticket with
      | none => exact Or.inr (Or.inr (Or.inr (Or.inr (Or.inl ⟨caller, rfl, rfl, by simp [advanceTicket, held]⟩))))
      | some ticket =>
          exact Or.inr (Or.inr (Or.inr (Or.inr (Or.inr ⟨caller, ticket, rfl, rfl, by simp [advanceTicket, held]⟩))))

section History

variable (past : List TicketStep) (taken : TicketStep)

theorem found_earlier (moment : Nat) (step : TicketStep) (found : past[moment]? = some step) :
    (past ++ [taken])[moment]? = some step := by
  obtain ⟨inside, _⟩ := List.getElem?_eq_some_iff.mp found
  rw [List.getElem?_append_left inside, found]

theorem found_cases (moment : Nat) (step : TicketStep) (found : (past ++ [taken])[moment]? = some step) :
    past[moment]? = some step ∨ moment = past.length ∧ step = taken := by
  rcases Nat.lt_or_ge moment past.length with inside | outside
  · rw [List.getElem?_append_left inside] at found
    exact Or.inl found
  · rw [List.getElem?_append_right outside] at found
    obtain ⟨here, same⟩ := List.getElem?_eq_some_iff.mp found
    rw [List.length_singleton] at here
    refine Or.inr ⟨by omega, ?_⟩
    rw [← same, List.getElem_singleton]

theorem stored_earlier (moment later : Nat) (ticket : Ticket) (within : moment ≤ later)
    (stored : StoredBefore past moment ticket) : StoredBefore (past ++ [taken]) later ticket := by
  obtain ⟨earlier, step, before, found, stores⟩ := stored
  exact ⟨earlier, step, by omega, found_earlier past taken earlier step found, stores⟩

theorem covered_earlier (moment later caller : Nat) (ticket : Ticket) (within : moment ≤ later)
    (covered : Covered past moment caller ticket) : Covered (past ++ [taken]) later caller ticket := by
  obtain ⟨checkedAt, check, before, found, checks, fresh | ⟨since, step, after, inTime, stored, stores⟩⟩ := covered
  · exact ⟨checkedAt, check, by omega, found_earlier past taken checkedAt check found, checks, Or.inl fresh⟩
  · exact ⟨checkedAt, check, by omega, found_earlier past taken checkedAt check found, checks,
      Or.inr ⟨since, step, after, by omega, found_earlier past taken since step stored, stores⟩⟩

theorem covered_by_login (caller checkedAt : Nat) (check : TicketStep) (ticket : Ticket)
    (found : past[checkedAt]? = some check) (checks : check.call = .checking caller) (stores : Stores taken ticket) :
    Covered (past ++ [taken]) (past ++ [taken]).length caller ticket := by
  obtain ⟨inside, _⟩ := List.getElem?_eq_some_iff.mp found
  rw [List.length_append, List.length_singleton]
  refine ⟨checkedAt, check, by omega, found_earlier past taken checkedAt check found, checks, Or.inr ?_⟩
  exact ⟨past.length, taken, inside, Nat.lt_succ_self _, List.getElem?_concat_length, stores⟩

theorem acquired_snoc (acquired : TicketsAcquired past)
    (noneMissing : taken.left ≠ .inr (.error ticketMissing))
    (returned : ∀ ticket, taken.left = .inr (.ok ticket) →
      StoredBefore past past.length ticket ∧ Covered past past.length taken.call.caller ticket) :
    TicketsAcquired (past ++ [taken]) := by
  constructor
  · intro step member
    rcases List.mem_append.mp member with earlier | now
    · exact acquired.noneMissing step earlier
    · rw [List.mem_singleton.mp now]
      exact noneMissing
  · intro moment step ticket found left
    rcases found_cases past taken moment step found with earlier | ⟨rfl, rfl⟩
    · obtain ⟨stored, covered⟩ := acquired.returned moment step ticket earlier left
      exact ⟨stored_earlier past taken moment moment ticket (Nat.le_refl _) stored,
        covered_earlier past taken moment moment _ ticket (Nat.le_refl _) covered⟩
    · obtain ⟨stored, covered⟩ := returned ticket left
      exact ⟨stored_earlier past step past.length past.length ticket (Nat.le_refl _) stored,
        covered_earlier past step past.length past.length _ ticket (Nat.le_refl _) covered⟩

end History

structure TicketHistory (past : List TicketStep) (pool : Protocol.Pool ClientState TicketCall) : Prop where
  acquired : TicketsAcquired past
  stored : ∀ ticket, pool.shared.ticket = some ticket → StoredBefore past past.length ticket
  checked : ∀ caller, TicketCall.loggingIn caller ∈ pool.calls →
    ∃ (checkedAt : Nat) (check : TicketStep), past[checkedAt]? = some check ∧ check.call = .checking caller
  reading : ∀ caller, TicketCall.reading caller ∈ pool.calls →
    ∃ ticket, pool.shared.ticket = some ticket ∧ Covered past past.length caller ticket

theorem history_entered (past : List TicketStep) (pool : Protocol.Pool ClientState TicketCall) (caller : Nat)
    (history : TicketHistory past pool) : TicketHistory past { pool with calls := .checking caller :: pool.calls } where
  acquired := history.acquired
  stored := history.stored
  checked other member := history.checked other (by simpa using member)
  reading other member := history.reading other (by simpa using member)

theorem history_kept (past : List TicketStep) (pool : Protocol.Pool ClientState TicketCall) (call : TicketCall)
    (rest : List TicketCall) (perm : pool.calls.Perm (call :: rest)) (taken : TicketStep)
    (history : TicketHistory past pool) (same : taken.after.ticket = pool.shared.ticket)
    (noneMissing : taken.left ≠ .inr (.error ticketMissing))
    (returned : ∀ ticket, taken.left = .inr (.ok ticket) →
      StoredBefore past past.length ticket ∧ Covered past past.length taken.call.caller ticket)
    (checks : ∀ caller, taken.left = .inl (.loggingIn caller) → taken.call = .checking caller)
    (covers : ∀ caller, taken.left = .inl (.reading caller) → ∃ ticket, pool.shared.ticket = some ticket ∧
      Covered (past ++ [taken]) (past ++ [taken]).length caller ticket) :
    TicketHistory (past ++ [taken]) ⟨taken.after, Protocol.resume taken.left rest⟩ := by
  have longer : past.length ≤ (past ++ [taken]).length := by simp
  have inFlight := Protocol.in_flight_after pool.calls rest call perm taken.left
  constructor
  · exact acquired_snoc past taken history.acquired noneMissing returned
  · intro ticket held
    rw [same] at held
    exact stored_earlier past taken past.length _ ticket longer (history.stored ticket held)
  · intro caller member
    rcases inFlight _ member with mine | other
    · exact ⟨past.length, taken, List.getElem?_concat_length, checks caller mine⟩
    · obtain ⟨checkedAt, check, found, was⟩ := history.checked caller other
      exact ⟨checkedAt, check, found_earlier past taken checkedAt check found, was⟩
  · intro caller member
    rcases inFlight _ member with mine | other
    · obtain ⟨ticket, held, covered⟩ := covers caller mine
      exact ⟨ticket, by rw [same, held], covered⟩
    · obtain ⟨ticket, held, covered⟩ := history.reading caller other
      exact ⟨ticket, by rw [same, held], covered_earlier past taken past.length _ caller ticket longer covered⟩

-- A login that succeeds replaces the ticket, for the calls that are about to read it too.
theorem history_login (past : List TicketStep) (pool : Protocol.Pool ClientState TicketCall) (caller : Nat)
    (rest : List TicketCall) (perm : pool.calls.Perm (.loggingIn caller :: rest)) (taken : TicketStep) (ticket : Ticket)
    (history : TicketHistory past pool) (call : taken.call = .loggingIn caller) (held : taken.after.ticket = some ticket)
    (left : taken.left = .inl (.reading caller)) :
    TicketHistory (past ++ [taken]) ⟨taken.after, Protocol.resume taken.left rest⟩ := by
  have stores : Stores taken ticket := by
    rw [Stores, call]
    exact ⟨rfl, left, held⟩
  have inFlight := Protocol.in_flight_after pool.calls rest _ perm taken.left
  have mine := history.checked caller (perm.mem_iff.mpr List.mem_cons_self)
  constructor
  · apply acquired_snoc past taken history.acquired
    · rw [left]
      exact Sum.inl_ne_inr
    · intro ticket done
      rw [left] at done
      cases done
  · intro other now
    rw [held, Option.some.injEq] at now
    subst now
    exact ⟨past.length, taken, by simp, List.getElem?_concat_length, stores⟩
  · intro other member
    rcases inFlight _ member with same | another
    · rw [left] at same
      cases same
    · obtain ⟨checkedAt, check, found, was⟩ := history.checked other another
      exact ⟨checkedAt, check, found_earlier past taken checkedAt check found, was⟩
  · intro other member
    refine ⟨ticket, held, ?_⟩
    rcases inFlight _ member with same | another
    · rw [left] at same
      cases same
      obtain ⟨checkedAt, check, found, was⟩ := mine
      exact covered_by_login past taken caller checkedAt check ticket found was stores
    · obtain ⟨_, _, checkedAt, check, _, found, was, _⟩ := history.reading other another
      exact covered_by_login past taken other checkedAt check ticket found was stores

theorem history_advanced (past : List TicketStep) (pool : Protocol.Pool ClientState TicketCall) (call : TicketCall)
    (heard : Heard) (rest : List TicketCall) (perm : pool.calls.Perm (call :: rest))
    (fits : DifferenceFits (ticketProtocol.taken call heard pool.shared)) (history : TicketHistory past pool) :
    TicketHistory (past ++ [ticketProtocol.taken call heard pool.shared])
      ⟨(ticketProtocol.taken call heard pool.shared).after,
        Protocol.resume (ticketProtocol.taken call heard pool.shared).left rest⟩ := by
  have stepped : ∀ next left, advanceTicket call heard pool.shared = (next, left) →
      ticketProtocol.taken call heard pool.shared = ⟨pool.shared, call, heard, next, left⟩ :=
    ticketProtocol.taken_of_advance call heard pool.shared
  rcases advance_ticket_cases call heard pool.shared with ⟨caller, rfl, done⟩ | ⟨caller, ticket, rfl, held, fresh, done⟩ |
    ⟨caller, next, ticket, rfl, stored, done⟩ | ⟨caller, next, reason, rfl, kept, done⟩ | ⟨caller, rfl, missing, done⟩ |
    ⟨caller, ticket, rfl, held, done⟩
  all_goals rw [stepped _ _ done] at fits ⊢
  · apply history_kept past pool _ rest perm _ history rfl
    · simp
    · simp
    · simp
    · simp
  · apply history_kept past pool _ rest perm _ history rfl
    · simp
    · simp
    · simp
    · intro other same
      cases same
      exact ⟨ticket, held, past.length, _, by simp, List.getElem?_concat_length, rfl,
        Or.inl ⟨held, fresh_seconds_left heard.now ticket fresh (fits ticket held rfl)⟩⟩
  · exact history_login past pool caller rest perm _ ticket history rfl stored rfl
  · apply history_kept past pool _ rest perm _ history kept
    · simp [ticketMissing]
    · simp
    · simp
    · simp
  · obtain ⟨ticket, held, _⟩ := history.reading caller (perm.mem_iff.mpr List.mem_cons_self)
    rw [missing] at held
    cases held
  · apply history_kept past pool _ rest perm _ history rfl
    · simp
    · intro returned same
      cases same
      obtain ⟨current, now, covered⟩ := history.reading caller (perm.mem_iff.mpr List.mem_cons_self)
      rw [held, Option.some.injEq] at now
      subst now
      exact ⟨history.stored ticket held, covered⟩
    · simp
    · simp

theorem ticket_history_start : TicketHistory [] ⟨.new, []⟩ where
  acquired := ⟨by simp, by simp⟩
  stored ticket held := by cases held
  checked caller member := by cases member
  reading caller member := by cases member

-- The turns are all the interleavings of the calls, with whatever the clock and the cluster say.
theorem tickets_acquired (turns : List (Protocol.Turn Nat Heard))
    (fits : ∀ step ∈ ticketProtocol.steps ⟨.new, []⟩ turns, DifferenceFits step) :
    TicketsAcquired (ticketProtocol.steps ⟨.new, []⟩ turns) :=
  (ticketProtocol.steps_history ⟨.new, []⟩ DifferenceFits TicketHistory ticket_history_start history_entered
    history_advanced turns fits).acquired

def ticketUntil (expiresAt : Int64) : Ticket :=
  { ticket := "PVE:root@pam:4EEC61E2", csrfToken := "4EEC61E2:lwk7od06", username := "root@pam", expiresAt := expiresAt }

def secondCall (expiresAt : Int64) (now : UInt64) : List (Protocol.Turn Nat Heard) :=
  let heard (clock : UInt64) : Heard :=
    { now := clock, ticketReply := .answered ⟨200, "200 OK"⟩ (.ok (ticketUntil expiresAt)), reply := .failed "unused" }
  [.starts 1, .advances 0 (heard 1), .advances 0 (heard 1), .advances 0 (heard 1), .starts 2, .advances 0 (heard now),
    .advances 0 (heard now)]

theorem tickets_acquired_second_call : TicketsAcquired (ticketProtocol.steps ⟨.new, []⟩ (secondCall 7200 6900)) :=
  tickets_acquired (secondCall 7200 6900) (by decide +kernel)

theorem listed_at {α β : Type} (write : α → β) (items : List α) (values : List β) (listed : items.map write = values)
    (place : Nat) (item : α) (found : items[place]? = some item) : values[place]? = some (write item) := by
  rw [← listed, List.getElem?_map, found, Option.map_some]

-- The least of the i64 minus one is the greatest of them.
theorem expired_ticket_taken_for_fresh :
    ¬ TicketsAcquired (ticketProtocol.steps ⟨.new, []⟩ (secondCall (-9223372036854775808) 1)) := by
  have calls : (ticketProtocol.steps ⟨.new, []⟩ (secondCall (-9223372036854775808) 1)).map Protocol.Taken.call =
      [.checking 1, .loggingIn 1, .reading 1, .checking 2, .reading 2] := by decide +kernel
  have clocks : (ticketProtocol.steps ⟨.new, []⟩ (secondCall (-9223372036854775808) 1)).map (fun step => step.heard.now) =
      [1, 1, 1, 1, 1] := by decide +kernel
  have results : (ticketProtocol.steps ⟨.new, []⟩ (secondCall (-9223372036854775808) 1)).map Protocol.Taken.left =
      [.inl (.loggingIn 1), .inl (.reading 1), .inr (.ok (ticketUntil (-9223372036854775808))), .inl (.reading 2),
        .inr (.ok (ticketUntil (-9223372036854775808)))] := by decide +kernel
  intro acquired
  generalize ticketProtocol.steps ⟨.new, []⟩ (secondCall (-9223372036854775808) 1) = steps at *
  obtain ⟨step, found⟩ : ∃ step, steps[4]? = some step := by
    have length := congrArg List.length calls
    rw [List.length_map] at length
    exact ⟨_, List.getElem?_eq_getElem (by rw [length]; decide)⟩
  have last : TicketCall.reading 2 = step.call := Option.some.inj (listed_at _ _ _ calls 4 step found)
  have result := Option.some.inj (listed_at _ _ _ results 4 step found)
  obtain ⟨_, checkedAt, check, inTime, present, checks, covered⟩ := acquired.returned 4 step _ found result.symm
  rw [← last] at checks
  have called := listed_at _ _ _ calls checkedAt check present
  rw [checks] at called
  have third : checkedAt = 3 := by
    rcases (by omega : checkedAt = 0 ∨ checkedAt = 1 ∨ checkedAt = 2 ∨ checkedAt = 3) with rfl | rfl | rfl | rfl
    · exact absurd called (by decide)
    · exact absurd called (by decide)
    · exact absurd called (by decide)
    · rfl
  subst third
  rcases covered with ⟨_, left⟩ | ⟨later, _, after, before, _⟩
  · have clock := Option.some.inj (listed_at _ _ _ clocks 3 check present)
    rw [← clock] at left
    exact absurd left (by decide)
  · omega

end Moxui.Proxmox
