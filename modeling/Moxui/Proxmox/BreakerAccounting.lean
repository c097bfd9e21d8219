import Moxui.Proxmox.Transport

set_option autoImplicit false

namespace Moxui.Proxmox

open Moxui.Api (AppError Json)

section Accounted

-- What is said to a call that runs by itself: when it looks at its ticket, to its login, when it
-- goes on from there, and to its own request. The redirects on the way belong to an exchange.
structure Exchanges where
  checking : Heard
  login : Heard
  sending : Heard
  own : Heard

def ClientRequest.logsIn (request : ClientRequest) (heard : Exchanges) (state : ClientState) : Bool :=
  match request with
  | .login => true
  | .send _ => shouldRefresh heard.checking.now state.ticket

def ClientRequest.sendsOwn (request : ClientRequest) (heard : Exchanges) (state : ClientState) : Bool :=
  match request with
  | .login => false
  | .send _ => !request.logsIn heard state || !(heard.login.ticketReply.silent || heard.login.ticketReply.refused)

def ClientRequest.hears (request : ClientRequest) (heard : Exchanges) (state : ClientState) : List Heard :=
  match request with
  | .login => [heard.checking, heard.login]
  | .send _ =>
      if request.logsIn heard state then
        [heard.checking, heard.checking, heard.login, heard.sending, heard.sending, heard.own]
      else [heard.checking, heard.sending, heard.sending, heard.own]

def clientMachine : Machine ClientState (ClientRequest × Exchanges) (ClientCall ⊕ ClientOutcome) where
  step state call := clientProtocol.alone ((call.1.hears call.2 state).map Heard.last) call.1.enter state

def Accounted (before : ClientState) (after : ClientState × (ClientCall ⊕ ClientOutcome)) : Prop :=
  (∀ error, after.2 = .inr (.error error) →
      after.1.breaker.failureCount.toNat = before.breaker.failureCount.toNat + 1) ∧
    ∀ value, after.2 = .inr (.ok value) → after.1.breaker = before.breaker.recordSuccess

-- Every exchange of the call is answered, with a refusal or with what decodes. If its own request
-- is refused after a login, no failures were counted before, and there is room for one more.
structure Answered (request : ClientRequest) (heard : Exchanges) (state : ClientState) : Prop where
  login : request.logsIn heard state = true → heard.login.ticketReply.silent = false
  own : request.sendsOwn heard state = true → heard.own.reply.silent = false
  reset : request.logsIn heard state = true → request.sendsOwn heard state = true →
    heard.own.reply.refused = true → state.breaker.failureCount = 0
  room : (request.logsIn heard state = true ∧ heard.login.ticketReply.refused = true) ∨
    (request.sendsOwn heard state = true ∧ heard.own.reply.refused = true) →
      state.breaker.failureCount.toNat + 1 < UInt32.size

-- The ways a call can end, with what each does to the breaker. A login that is granted has reset
-- it before the request itself goes out.
def ClientRequest.reached (request : ClientRequest) (heard : Exchanges) (state : ClientState) : CircuitBreaker :=
  if request.logsIn heard state then state.breaker.recordSuccess else state.breaker

inductive Ended (request : ClientRequest) (heard : Exchanges) (state : ClientState)
    (after : ClientState × (ClientCall ⊕ ClientOutcome)) : Prop where
  | loginSilent (error : AppError) (logs : request.logsIn heard state = true)
      (silent : heard.login.ticketReply.silent = true) (sends : request.sendsOwn heard state = false)
      (breaker : after.1.breaker = state.breaker) (outcome : after.2 = .inr (.error error))
  | loginRefused (error : AppError) (logs : request.logsIn heard state = true)
      (answered : heard.login.ticketReply.silent = false) (refused : heard.login.ticketReply.refused = true)
      (sends : request.sendsOwn heard state = false)
      (breaker : after.1.breaker = state.breaker.recordFailure heard.login.now) (outcome : after.2 = .inr (.error error))
  | granted (answered : heard.login.ticketReply.silent = false) (accepted : heard.login.ticketReply.refused = false)
      (sends : request.sendsOwn heard state = false) (breaker : after.1.breaker = state.breaker.recordSuccess)
      (outcome : after.2 = .inr (.ok none))
  | ownSilent (error : AppError) (sends : request.sendsOwn heard state = true) (silent : heard.own.reply.silent = true)
      (breaker : after.1.breaker = request.reached heard state) (outcome : after.2 = .inr (.error error))
  | ownRefused (error : AppError) (sends : request.sendsOwn heard state = true)
      (login : request.logsIn heard state = true →
        heard.login.ticketReply.silent = false ∧ heard.login.ticketReply.refused = false)
      (answered : heard.own.reply.silent = false) (refused : heard.own.reply.refused = true)
      (breaker : after.1.breaker = (request.reached heard state).recordFailure heard.own.now)
      (outcome : after.2 = .inr (.error error))
  | answered (data : Json) (sends : request.sendsOwn heard state = true)
      (login : request.logsIn heard state = true →
        heard.login.ticketReply.silent = false ∧ heard.login.ticketReply.refused = false)
      (answered : heard.own.reply.silent = false) (accepted : heard.own.reply.refused = false)
      (breaker : after.1.breaker = state.breaker.recordSuccess) (outcome : after.2 = .inr (.ok (some data)))

theorem own_ended (transport : Transport) (heard : Exchanges) (state held : ClientState)
    (sends : (ClientRequest.send transport).sendsOwn heard state = true)
    (login : (ClientRequest.send transport).logsIn heard state = true →
      heard.login.ticketReply.silent = false ∧ heard.login.ticketReply.refused = false)
    (breaker : held.breaker = (ClientRequest.send transport).reached heard state)
    (after : ClientState × (ClientCall ⊕ ClientOutcome)) (same : after = ownAnswered transport heard.own held) :
    Ended (.send transport) heard state after := by
  subst same
  have reset : held.breaker.recordSuccess = state.breaker.recordSuccess := by
    rw [breaker, ClientRequest.reached]
    split <;> rfl
  rcases own_answered_cases transport heard.own held with ⟨error, silent, _, same⟩ | ⟨error, answered, refused, same⟩ |
    ⟨data, answered, accepted, same, _⟩
  · exact .ownSilent error sends silent (by rw [same, breaker]) (by rw [same])
  · exact .ownRefused error sends login answered refused (by rw [same, breaker]) (by rw [same])
  · exact .answered data sends login answered accepted (by rw [same, reset]) (by rw [same])

theorem ticket_read (transport : Transport) (state : ClientState) (held : state.ticket.isSome = true) :
    ∃ ticket, readTicket transport state = (state, .inl (.sending transport ticket)) := by
  obtain ⟨ticket, same⟩ := Option.isSome_iff_exists.mp held
  refine ⟨ticket, ?_⟩
  unfold readTicket
  rw [same]

theorem login_ran (heard : Exchanges) (state : ClientState) :
    clientMachine.step state (.login, heard) = loginAnswered none heard.login state := by
  have rest := login_answered_cases none heard.login state
  simp only [clientMachine, ClientRequest.hears, ClientRequest.enter, List.map_cons, List.map_nil, Protocol.alone,
    clientProtocol, advanceClient, Heard.last, goesOn, follow]
  rcases rest with ⟨_, _, _, same⟩ | ⟨_, _, _, same⟩ | ⟨_, _, _, same, _⟩
  · rw [same]
  · rw [same]
  · rw [same]
    rfl

theorem holding_ran (transport : Transport) (heard : Exchanges) (state : ClientState) (held : state.ticket.isSome = true) :
    clientProtocol.alone [heard.sending.last, heard.sending.last, heard.own.last] (.holding transport) state =
      ownAnswered transport heard.own state := by
  obtain ⟨ticket, read⟩ := ticket_read transport state held
  simp only [Protocol.alone, clientProtocol, advanceClient, Heard.last, goesOn, read, follow]
  rcases own_answered_cases transport heard.own state with ⟨_, _, _, same⟩ | ⟨_, _, _, same⟩ | ⟨_, _, _, same, _⟩
  · rw [same]
  · rw [same]
  · rw [same]

theorem ticketed_ran (transport : Transport) (heard : Exchanges) (state : ClientState)
    (refresh : shouldRefresh heard.checking.now state.ticket = false) :
    clientMachine.step state (.send transport, heard) = ownAnswered transport heard.own state := by
  obtain ⟨ticket, held⟩ := should_refresh_absent heard.checking.now state.ticket refresh
  rw [← holding_ran transport heard state (by rw [held, Option.isSome_some])]
  simp only [clientMachine, ClientRequest.hears, ClientRequest.logsIn, ClientRequest.enter, refresh, Bool.false_eq_true,
    if_false, List.map_cons, List.map_nil]
  rw [Protocol.alone]
  simp only [clientProtocol, advanceClient, Heard.last, goesOn, refresh, Bool.false_eq_true, if_false]

theorem refused_login_ran (transport : Transport) (heard : Exchanges) (state after : ClientState) (outcome : ClientOutcome)
    (refresh : shouldRefresh heard.checking.now state.ticket = true)
    (ended : loginAnswered (some transport) heard.login state = (after, .inr outcome)) :
    clientMachine.step state (.send transport, heard) = (after, .inr outcome) := by
  simp only [clientMachine, ClientRequest.hears, ClientRequest.logsIn, ClientRequest.enter, refresh, if_true, List.map_cons,
    List.map_nil, Protocol.alone, clientProtocol, advanceClient, Heard.last, goesOn, follow, ended]

theorem granted_login_ran (transport : Transport) (heard : Exchanges) (state : ClientState) (after : ClientState)
    (refresh : shouldRefresh heard.checking.now state.ticket = true) (held : after.ticket.isSome = true)
    (granted : loginAnswered (some transport) heard.login state = (after, loggedIn (some transport))) :
    clientMachine.step state (.send transport, heard) = ownAnswered transport heard.own after := by
  rw [← holding_ran transport heard after held]
  simp only [clientMachine, ClientRequest.hears, ClientRequest.logsIn, ClientRequest.enter, refresh, if_true, List.map_cons,
    List.map_nil, Protocol.alone, clientProtocol, advanceClient, Heard.last, goesOn, follow, granted, loggedIn]

theorem call_ended (request : ClientRequest) (heard : Exchanges) (state : ClientState) :
    Ended request heard state (clientMachine.step state (request, heard)) := by
  cases request with
  | login =>
      rcases login_answered_cases none heard.login state with ⟨error, silent, _, same⟩ | ⟨error, answered, refused, same⟩ |
        ⟨ticket, answered, accepted, same, _⟩
      · exact .loginSilent error rfl silent rfl (by rw [login_ran, same]) (by rw [login_ran, same])
      · exact .loginRefused error rfl answered refused rfl (by rw [login_ran, same]) (by rw [login_ran, same])
      · exact .granted answered accepted rfl (by rw [login_ran, same]) (by rw [login_ran, same]; rfl)
  | send transport =>
      cases refresh : shouldRefresh heard.checking.now state.ticket with
      | false =>
          refine own_ended transport heard state state ?_ ?_ ?_ _ (ticketed_ran transport heard state refresh)
          · simp [ClientRequest.sendsOwn, ClientRequest.logsIn, refresh]
          · intro logs
            simp [ClientRequest.logsIn, refresh] at logs
          · simp [ClientRequest.reached, ClientRequest.logsIn, refresh]
      | true =>
          have logs : (ClientRequest.send transport).logsIn heard state = true := refresh
          rcases login_answered_cases (some transport) heard.login state with ⟨error, silent, accepted, same⟩ |
            ⟨error, answered, refused, same⟩ | ⟨ticket, answered, accepted, same, _⟩
          · have ran := refused_login_ran transport heard state _ _ refresh same
            refine .loginSilent error logs silent ?_ (by rw [ran]) (by rw [ran])
            simp [ClientRequest.sendsOwn, logs, silent]
          · have ran := refused_login_ran transport heard state _ _ refresh same
            refine .loginRefused error logs answered refused ?_ (by rw [ran]) (by rw [ran])
            simp [ClientRequest.sendsOwn, logs, refused]
          · refine own_ended transport heard state _ ?_ ?_ ?_ _ (granted_login_ran transport heard state _ refresh rfl same)
            · simp [ClientRequest.sendsOwn, answered, accepted]
            · intro _
              exact ⟨answered, accepted⟩
            · simp [ClientRequest.reached, logs]

theorem counted_once_iff (breaker : CircuitBreaker) (now : UInt64) :
    (breaker.recordFailure now).failureCount.toNat = breaker.failureCount.toNat + 1 ↔
      breaker.failureCount.toNat + 1 < UInt32.size := by
  have count : (breaker.recordFailure now).failureCount.toNat = (breaker.failureCount.toNat + 1) % UInt32.size :=
    UInt32.toNat_add _ _
  have bound : breaker.failureCount.toNat < UInt32.size := breaker.failureCount.toNat_lt
  rw [count]
  by_cases room : breaker.failureCount.toNat + 1 < UInt32.size
  · exact iff_of_true (Nat.mod_eq_of_lt room) room
  · have last : breaker.failureCount.toNat + 1 = UInt32.size := by omega
    refine iff_of_false ?_ room
    rw [last, Nat.mod_self]
    decide

-- A login that is heard puts the count back to zero, and the refusal after it makes it one.
theorem counted_after_reset_iff (breaker : CircuitBreaker) (now : UInt64) :
    (breaker.recordSuccess.recordFailure now).failureCount.toNat = breaker.failureCount.toNat + 1 ↔
      breaker.failureCount = 0 := by
  have single : (breaker.recordSuccess.recordFailure now).failureCount.toNat = 1 := rfl
  have zero : (0 : UInt32).toNat = 0 := rfl
  rw [single, ← UInt32.toNat_inj, zero]
  omega

theorem accounted_error_iff (before : ClientState) (after : ClientState × (ClientCall ⊕ ClientOutcome)) (error : AppError)
    (outcome : after.2 = .inr (.error error)) :
    Accounted before after ↔ after.1.breaker.failureCount.toNat = before.breaker.failureCount.toNat + 1 := by
  refine ⟨fun accounted => accounted.1 error outcome, ?_⟩
  intro counted
  refine ⟨fun _ _ => counted, ?_⟩
  intro value same
  rw [outcome] at same
  cases same

theorem accounted_ok (before : ClientState) (after : ClientState × (ClientCall ⊕ ClientOutcome)) (value : Option Json)
    (outcome : after.2 = .inr (.ok value)) (reset : after.1.breaker = before.breaker.recordSuccess) :
    Accounted before after := by
  refine ⟨?_, fun _ _ => reset⟩
  intro error same
  rw [outcome] at same
  cases same

theorem answered_without_own (request : ClientRequest) (heard : Exchanges) (state : ClientState)
    (sends : request.sendsOwn heard state = false)
    (login : request.logsIn heard state = true → heard.login.ticketReply.silent = false)
    (room : heard.login.ticketReply.refused = true → state.breaker.failureCount.toNat + 1 < UInt32.size) :
    Answered request heard state := by
  have unsent : ¬ request.sendsOwn heard state = true := by
    rw [sends]
    exact Bool.false_ne_true
  refine { login := login, own := fun own => absurd own unsent, reset := fun _ own => absurd own unsent, room := ?_ }
  intro refusal
  rcases refusal with ⟨_, refused⟩ | ⟨own, _⟩
  · exact room refused
  · exact absurd own unsent

theorem accounted_iff (request : ClientRequest) (heard : Exchanges) (state : ClientState) :
    Accounted state (clientMachine.step state (request, heard)) ↔ Answered request heard state := by
  cases call_ended request heard state with
  | loginSilent error logs silent sends breaker outcome =>
      rw [accounted_error_iff state _ error outcome, breaker]
      refine iff_of_false (by omega) ?_
      intro answered
      rw [answered.login logs] at silent
      cases silent
  | loginRefused error logs answered refused sends breaker outcome =>
      rw [accounted_error_iff state _ error outcome, breaker, counted_once_iff]
      refine ⟨?_, fun all => all.room (Or.inl ⟨logs, refused⟩)⟩
      intro room
      exact answered_without_own request heard state sends (fun _ => answered) fun _ => room
  | granted answered accepted sends breaker outcome =>
      refine iff_of_true (accounted_ok state _ none outcome breaker) ?_
      refine answered_without_own request heard state sends (fun _ => answered) ?_
      intro refused
      rw [accepted] at refused
      cases refused
  | ownSilent error sends silent breaker outcome =>
      rw [accounted_error_iff state _ error outcome, breaker]
      refine iff_of_false ?_ ?_
      · unfold ClientRequest.reached
        split
        · simp [CircuitBreaker.recordSuccess]
        · omega
      · intro answered
        rw [answered.own sends] at silent
        cases silent
  | ownRefused error sends login answered refused breaker outcome =>
      rw [accounted_error_iff state _ error outcome, breaker]
      have unrefused : request.logsIn heard state = true → heard.login.ticketReply.refused ≠ true := by
        intro logs isRefused
        rw [(login logs).2] at isRefused
        cases isRefused
      by_cases logs : request.logsIn heard state = true
      · rw [ClientRequest.reached, if_pos logs, counted_after_reset_iff]
        refine ⟨?_, fun all => all.reset logs sends refused⟩
        intro none
        refine { login := fun _ => (login logs).1, own := fun _ => answered, reset := fun _ _ _ => none, room := ?_ }
        intro _
        rw [none]
        decide
      · rw [ClientRequest.reached, if_neg logs, counted_once_iff]
        refine ⟨?_, fun all => all.room (Or.inr ⟨sends, refused⟩)⟩
        intro room
        exact { login := fun isLogs => absurd isLogs logs, own := fun _ => answered
                reset := fun isLogs => absurd isLogs logs, room := fun _ => room }
  | answered data sends login answered accepted breaker outcome =>
      refine iff_of_true (accounted_ok state _ (some data) outcome breaker) ?_
      refine { login := fun logs => (login logs).1, own := fun _ => answered, reset := ?_, room := ?_ }
      · intro _ _ refused
        rw [accepted] at refused
        cases refused
      · rintro (⟨logs, refused⟩ | ⟨_, refused⟩)
        · rw [(login logs).2] at refused
          cases refused
        · rw [accepted] at refused
          cases refused

def ClientRequest.refusedAt (request : ClientRequest) (heard : Exchanges) (state : ClientState) : UInt64 :=
  if request.sendsOwn heard state then heard.own.now else heard.login.now

theorem failing_recorded (request : ClientRequest) (heard : Exchanges) (state : ClientState) (error : AppError)
    (fails : (clientMachine.step state (request, heard)).2 = .inr (.error error)) (answered : Answered request heard state) :
    ∃ reached : CircuitBreaker, reached.failureThreshold = state.breaker.failureThreshold ∧
      reached.cooldown = state.breaker.cooldown ∧ reached.failureCount = state.breaker.failureCount ∧
      (clientMachine.step state (request, heard)).1.breaker = reached.recordFailure (request.refusedAt heard state) := by
  cases call_ended request heard state with
  | loginSilent other logs silent sends breaker outcome =>
      rw [answered.login logs] at silent
      cases silent
  | loginRefused other logs isAnswered refused sends breaker outcome =>
      refine ⟨state.breaker, rfl, rfl, rfl, ?_⟩
      rw [breaker, ClientRequest.refusedAt, sends]
      rfl
  | granted isAnswered accepted sends breaker outcome =>
      rw [fails] at outcome
      cases outcome
  | ownSilent other sends silent breaker outcome =>
      rw [answered.own sends] at silent
      cases silent
  | ownRefused other sends login isAnswered refused breaker outcome =>
      refine ⟨request.reached heard state, ?_, ?_, ?_, ?_⟩
      · unfold ClientRequest.reached
        split <;> rfl
      · unfold ClientRequest.reached
        split <;> rfl
      · by_cases logs : request.logsIn heard state = true
        · rw [ClientRequest.reached, if_pos logs, answered.reset logs sends refused]
          rfl
        · rw [ClientRequest.reached, if_neg logs]
      · rw [breaker, ClientRequest.refusedAt, if_pos sends]
  | answered data sends login isAnswered accepted breaker outcome =>
      rw [fails] at outcome
      cases outcome

def Fails (occurrence : Machine.Event ClientState (ClientRequest × Exchanges) (ClientCall ⊕ ClientOutcome)) : Prop :=
  ∃ error, occurrence.output = .inr (.error error)

def AllAnswered (occurrence : Machine.Event ClientState (ClientRequest × Exchanges) (ClientCall ⊕ ClientOutcome)) : Prop :=
  Answered occurrence.input.1 occurrence.input.2 occurrence.before

theorem failing_run_counts (start : ClientState) (calls : List (ClientRequest × Exchanges))
    (failing : ∀ occurrence ∈ clientMachine.trace start calls, Fails occurrence ∧ AllAnswered occurrence) :
    (clientMachine.run start calls).breaker.failureCount.toNat = start.breaker.failureCount.toNat + calls.length ∧
      (clientMachine.run start calls).breaker.failureThreshold = start.breaker.failureThreshold ∧
      (clientMachine.run start calls).breaker.cooldown = start.breaker.cooldown := by
  induction calls using List.reverseRecOn with
  | nil => exact ⟨rfl, rfl, rfl⟩
  | append_singleton calls call ih =>
      rw [Machine.trace_snoc] at failing
      obtain ⟨count, threshold, cooldown⟩ := ih fun occurrence member => failing _ (List.mem_append_left _ member)
      obtain ⟨⟨error, fails⟩, answered⟩ := failing _ (List.mem_append_right _ List.mem_cons_self)
      have counted := ((accounted_iff call.1 call.2 (clientMachine.run start calls)).mpr answered).1 error fails
      obtain ⟨reached, sameThreshold, sameCooldown, _, breaker⟩ := failing_recorded call.1 call.2 _ error fails answered
      rw [Machine.run_snoc, List.length_append]
      refine ⟨?_, ?_, ?_⟩
      · rw [counted, count, List.length_singleton, Nat.add_assoc]
      · rw [breaker, ← threshold, ← sameThreshold]
        rfl
      · rw [breaker, ← cooldown, ← sameCooldown]
        rfl

theorem failing_run_opens (start : ClientState) (calls : List (ClientRequest × Exchanges))
    (last : ClientRequest × Exchanges)
    (failing : ∀ occurrence ∈ clientMachine.trace start (calls ++ [last]), Fails occurrence ∧ AllAnswered occurrence)
    (enough : start.breaker.failureThreshold.toNat ≤ calls.length + 1) (now : UInt64)
    (clock : last.1.refusedAt last.2 (clientMachine.run start calls) ≠ 0)
    (soon : now - last.1.refusedAt last.2 (clientMachine.run start calls) < start.breaker.cooldown) :
    (clientMachine.run start (calls ++ [last])).breaker.state now = .opened := by
  rw [Machine.trace_snoc] at failing
  obtain ⟨count, threshold, cooldown⟩ :=
    failing_run_counts start calls fun occurrence member => failing _ (List.mem_append_left _ member)
  obtain ⟨⟨error, fails⟩, answered⟩ := failing _ (List.mem_append_right _ List.mem_cons_self)
  have counted := ((accounted_iff last.1 last.2 (clientMachine.run start calls)).mpr answered).1 error fails
  obtain ⟨reached, sameThreshold, sameCooldown, sameCount, breaker⟩ :=
    failing_recorded last.1 last.2 (clientMachine.run start calls) error fails answered
  rw [Machine.run_snoc, breaker]
  refine reached.record_failure_opened _ now ?_ clock ?_
  · have next : (reached.failureCount + 1).toNat = start.breaker.failureCount.toNat + calls.length + 1 := by
      rw [← count, ← counted, breaker]
      rfl
    rw [ge_iff_le, UInt32.le_iff_toNat_le, sameThreshold, threshold, next]
    omega
  · rw [sameCooldown, cooldown]
    exact soon

-- What is claimed of single calls holds of those with an answer to all they send, and then so
-- does what is claimed of calls in a row.
structure BreakerAccounting (start : ClientState) (calls : List (ClientRequest × Exchanges)) (request : ClientRequest)
    (heard : Exchanges) : Prop where
  each : Accounted (clientMachine.run start calls) (clientMachine.step (clientMachine.run start calls) (request, heard)) ↔
    Answered request heard (clientMachine.run start calls)
  opens : (∀ occurrence ∈ clientMachine.trace start (calls ++ [(request, heard)]),
      Fails occurrence ∧ AllAnswered occurrence) →
    start.breaker.failureThreshold.toNat ≤ calls.length + 1 →
    ∀ now, request.refusedAt heard (clientMachine.run start calls) ≠ 0 →
      now - request.refusedAt heard (clientMachine.run start calls) < start.breaker.cooldown →
      (clientMachine.run start (calls ++ [(request, heard)])).breaker.state now = .opened

theorem breaker_accounting (start : ClientState) (calls : List (ClientRequest × Exchanges)) (request : ClientRequest)
    (heard : Exchanges) : BreakerAccounting start calls request heard where
  each := accounted_iff request heard (clientMachine.run start calls)
  opens := failing_run_opens start calls (request, heard)

end Accounted

def unreachable (now : UInt64) : Heard :=
  { now := now, ticketReply := .failed "connection refused", reply := .failed "connection refused" }

def unreachableExchanges : Exchanges :=
  ⟨unreachable 1000, unreachable 1000, unreachable 1000, unreachable 1000⟩

def fiveUnreachable : List (ClientRequest × Exchanges) :=
  List.replicate 5 (.send (.get "version"), unreachableExchanges)

-- Five calls to a cluster that cannot be reached fail, and none of them is counted.
theorem unreachable_cluster_not_counted :
    (∀ occurrence ∈ clientMachine.trace ClientState.new fiveUnreachable, Fails occurrence) ∧
      (¬ ∀ occurrence ∈ clientMachine.trace ClientState.new fiveUnreachable,
        Accounted occurrence.before (occurrence.after, occurrence.output)) ∧
      (clientMachine.run ClientState.new fiveUnreachable).breaker.state 1001 ≠ .opened := by
  have first : clientMachine.event ClientState.new (.send (.get "version"), unreachableExchanges) ∈
      clientMachine.trace ClientState.new fiveUnreachable := List.mem_cons_self
  refine ⟨?_, ?_, by decide⟩
  · intro occurrence member
    simp only [fiveUnreachable, List.replicate, Machine.trace, List.mem_cons, List.not_mem_nil, or_false] at member
    rcases member with rfl | rfl | rfl | rfl | rfl <;> exact ⟨.proxmox "connection refused", rfl⟩
  · intro accounted
    have counted := (accounted _ first).1 (.proxmox "connection refused") rfl
    revert counted
    decide

end Moxui.Proxmox
