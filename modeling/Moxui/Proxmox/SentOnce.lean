import Moxui.Proxmox.BreakerUse

set_option autoImplicit false

namespace Moxui.Proxmox

open Moxui.Api (Json)

-- The methods of the client that put a request on the wire. All its other methods call one of these.
inductive ClientMethod where
  | get (path : String)
  | post (path : String)
  | postWithQuery (path : String) (params : Params)
  | postNoDefault (path : String) (params : Params)
  | putWithQuery (path : String) (params : Params)
  | putJson (path : String)
  | deleteJson (path : String)
  | uploadFile (node storage : String)
  | listVms
  | listLxcs
  | lxcDetail (node : String) (vmid : UInt32)
  | listStorages (node : String)
  | storageContent (node storage : String)
  | listNetworks (node : String)
  | ping
deriving DecidableEq, Repr

def ClientMethod.transport : ClientMethod → Transport
  | .get path => .get path
  | .post path => .post path
  | .postWithQuery path params => .postWithQuery path params
  | .postNoDefault path params => .postNoDefault path params
  | .putWithQuery path params => .putWithQuery path params
  | .putJson path => .putJson path
  | .deleteJson path => .deleteJson path
  | .uploadFile node storage => .uploadFile node storage
  | .listVms => .listVms
  | .listLxcs => .listLxcs
  | .lxcDetail node vmid => .lxcDetail node vmid
  | .listStorages node => .listStorages node
  | .storageContent node storage => .storageContent node storage
  | .listNetworks node => .listNetworks node
  | .ping => .ping

inductive ClientUse where
  | login
  | calls (method : ClientMethod)

def ClientUse.request : ClientUse → ClientRequest
  | .login => .login
  | .calls method => .send method.transport

def ClientUse.turn : Protocol.Turn ClientUse Wake → ClientTurn
  | .starts use => .starts use.request
  | .advances index wake => .advances index wake

-- What changes something goes out with the token against forged requests.
def Transport.Guarded (transport : Transport) : Prop :=
  transport.verb ≠ .get → transport.csrf = true

theorem method_guarded (method : ClientMethod) : method.transport.Guarded := by
  intro changes
  cases method with
  | get | listVms | listLxcs | lxcDetail | listStorages | storageContent | listNetworks | ping =>
      exact absurd rfl changes
  | post | postWithQuery | postNoDefault | putWithQuery | putJson | deleteJson | uploadFile => rfl

def ClientCall.unsent : ClientCall → List ClientRequest
  | .checking transport => [.send transport]
  | .asking none => [.login]
  | .asking (some transport) => [.send transport]
  | .loggingIn none _ => []
  | .loggingIn (some transport) _ => [.send transport]
  | .holding transport => [.send transport]
  | .sending transport _ => [.send transport]
  | .waiting _ _ _ => []

def begun (step : ClientStep) : List ClientRequest :=
  match step.call, step.left with
  | .asking none, .inl _ => [.login]
  | .sending transport _, .inl _ => [.send transport]
  | _, _ => []

def dropped (step : ClientStep) : List ClientRequest :=
  match step.left with
  | .inl _ => []
  | .inr _ => step.call.unsent

def Grants (step : ClientStep) (ticket : Ticket) : Prop :=
  (∃ next followed, step.call = .loggingIn next followed) ∧ step.heard.cutOff = none ∧
    Brings step.heard step.heard.ticketReply ticket

def Newest (past : List ClientStep) (ticket : Ticket) : Prop :=
  ∃ earlier login later, past = earlier ++ login :: later ∧ Grants login ticket ∧
    ∀ step ∈ later, ∀ other, ¬ Grants step other

def LetThrough (step : ClientStep) (transport : Transport) : Prop :=
  step.left = .inl (.holding transport) ∧
    ((∃ ticket, step.before.ticket = some ticket ∧ shouldRefresh step.heard.now (some ticket) = false) ∨
      ∃ ticket, Grants step ticket)

def ReadNewest (past : List ClientStep) (transport : Transport) (ticket : Ticket) : Prop :=
  ∃ earlier reading later, past = earlier ++ reading :: later ∧ reading.left = .inl (.sending transport ticket) ∧
    Newest earlier ticket ∧ ∃ passing ∈ earlier, LetThrough passing transport

-- A login, a request with the credentials of the ticket that was read for it, or what reqwest makes of one
-- that the same call had sent before, when it is told to go elsewhere.
inductive Authorised (base : String) (past : List ClientStep) (step : ClientStep) : HttpRequest → Prop where
  | login (next : Option Transport) (asks : step.call = .asking next) : Authorised base past step (loginRequest base)
  | own (transport : Transport) (ticket : Ticket) (begins : begun step = [.send transport])
      (read : ReadNewest past transport ticket)
      (csrf : transport.verb ≠ .get → (transport.request base ticket).csrf = some ticket.csrfToken) :
      Authorised base past step (transport.request base ticket)
  | redirected (before : ClientStep) (request : HttpRequest) (redirect : Redirect) (was : before ∈ past)
      (same : before.left = .inl step.call) (wasSent : sent base before = some request)
      (told : step.heard.redirect = some redirect) : Authorised base past step (request.redirected redirect)

structure SentOnce (base : String) (uses : List ClientUse) (steps : List ClientStep) (calls : List ClientCall) : Prop where
  once : (uses.map ClientUse.request).Perm
    ((steps.flatMap fun step => begun step ++ dropped step) ++ calls.flatMap ClientCall.unsent)
  sends : ∀ step ∈ steps, begun step ≠ [] → (sent base step).isSome = true
  drops : ∀ step ∈ steps, dropped step ≠ [] → step.heard.cutOff ≠ none ∨
    (∃ next followed, step.call = .loggingIn next followed) ∧ ∀ ticket, ¬ Grants step ticket
  authorised : ∀ earlier step later, steps = earlier ++ step :: later → ∀ request, sent base step = some request →
    Authorised base earlier step request
  answers : ∀ step ∈ steps, ∀ transport ticket followed, step.call = .waiting transport ticket followed → ∀ data,
    step.left = .inr (.ok (some data)) ↔ step.heard.cutOff = none ∧ Brings step.heard step.heard.reply data

section Steps

variable (call : ClientCall) (wake : Wake) (state : ClientState)

theorem unsent_spent :
    call.unsent = (begun (clientProtocol.taken call wake state) ++ dropped (clientProtocol.taken call wake state)) ++
      (Protocol.resume (clientProtocol.taken call wake state).left []).flatMap ClientCall.unsent := by
  have move := client_move call wake state
  simp only [begun, dropped, Protocol.taken, clientProtocol]
  generalize advanceClient call wake state = after at move ⊢
  cases move with
  | cutOff call message isCut => cases call with
    | asking next => cases next <;> rfl
    | _ => simp [Protocol.resume]
  | posts next uncut => cases next <;> rfl
  | postsOn next followed redirect uncut sentOn room => cases next <;> rfl
  | unticketed next followed after error uncut same full none => cases next <;> rfl
  | granted next followed after ticket uncut stored brings => cases next <;> rfl
  | _ => rfl

theorem ticket_step :
    (∃ ticket, Grants (clientProtocol.taken call wake state) ticket ∧
      (clientProtocol.taken call wake state).after.ticket = some ticket) ∨
    (∀ ticket, ¬ Grants (clientProtocol.taken call wake state) ticket) ∧
      (clientProtocol.taken call wake state).after.ticket = state.ticket := by
  have move := client_move call wake state
  simp only [Grants, Protocol.taken, clientProtocol]
  generalize advanceClient call wake state = after at move ⊢
  cases move with
  | cutOff call message isCut => exact Or.inr ⟨by simp [isCut], rfl⟩
  | postsOn next followed redirect uncut sentOn room =>
      exact Or.inr ⟨fun ticket grants => redirected_brings wake _ redirect sentOn ticket grants.2.2, rfl⟩
  | unticketed next followed after error uncut same full none =>
      exact Or.inr ⟨fun ticket grants => none ticket grants.2.2, same⟩
  | granted next followed after ticket uncut stored brings =>
      exact Or.inl ⟨ticket, ⟨⟨next, followed, rfl⟩, uncut, brings⟩, stored⟩
  | fails transport ticket followed after error uncut same full none => exact Or.inr ⟨by simp, same⟩
  | answered transport ticket followed after data uncut same brings => exact Or.inr ⟨by simp, same⟩
  | _ => exact Or.inr ⟨by simp, rfl⟩

theorem begun_goes_out (begins : begun (clientProtocol.taken call wake state) ≠ []) :
    GoesOut (clientProtocol.taken call wake state) := by
  have move := client_move call wake state
  simp only [begun, GoesOut, Protocol.taken, clientProtocol] at begins ⊢
  generalize advanceClient call wake state = after at move begins
  cases move with
  | posts next uncut => exact ⟨uncut, Or.inl ⟨next, rfl⟩⟩
  | sends transport ticket uncut => exact ⟨uncut, Or.inr (Or.inl ⟨transport, ticket, rfl⟩)⟩
  | cutOff call message isCut => cases call with
    | asking next => cases next <;> exact absurd rfl begins
    | _ => exact absurd rfl begins
  | _ => exact absurd rfl begins

theorem let_through (transport : Transport) (left : (clientProtocol.taken call wake state).left = .inl (.holding transport)) :
    LetThrough (clientProtocol.taken call wake state) transport := by
  refine ⟨left, ?_⟩
  have move := client_move call wake state
  simp only [Grants, Protocol.taken, clientProtocol] at left ⊢
  generalize advanceClient call wake state = after at move left
  cases move with
  | passes other ticket uncut held fresh => exact Or.inl ⟨ticket, held, fresh⟩
  | granted next followed after ticket uncut stored brings =>
      exact Or.inr ⟨ticket, ⟨next, followed, rfl⟩, uncut, brings⟩
  | _ => cases left

theorem read_step (transport : Transport) (ticket : Ticket)
    (left : (clientProtocol.taken call wake state).left = .inl (.sending transport ticket)) :
    call = .holding transport ∧ state.ticket = some ticket := by
  have move := client_move call wake state
  simp only [Protocol.taken, clientProtocol] at left
  generalize advanceClient call wake state = after at move left
  cases move with
  | reads other held uncut stored =>
      cases left
      exact ⟨rfl, stored⟩
  | granted next followed after held uncut stored brings => cases next <;> cases left
  | _ => cases left

theorem dropped_early (ticketed : Ticketed call state.ticket)
    (drops : dropped (clientProtocol.taken call wake state) ≠ []) :
    wake.cutOff ≠ none ∨ (∃ next followed, call = .loggingIn next followed) ∧
      ∀ ticket, ¬ Grants (clientProtocol.taken call wake state) ticket := by
  have move := client_move call wake state
  simp only [dropped, Grants, Protocol.taken, clientProtocol] at drops ⊢
  generalize advanceClient call wake state = after at move drops
  cases move with
  | cutOff call message isCut => exact Or.inl (by simp [isCut])
  | unticketed next followed after error uncut same full none =>
      exact Or.inr ⟨⟨next, followed, rfl⟩, fun ticket grants => none ticket grants.2.2⟩
  | misses transport uncut missing =>
      have held := ticketed transport rfl
      rw [missing] at held
      cases held
  | granted next followed after ticket uncut stored brings => cases next <;> exact absurd rfl drops
  | _ => exact absurd rfl drops

theorem own_outcome (transport : Transport) (ticket : Ticket) (followed : List Redirect)
    (waits : call = .waiting transport ticket followed) (data : Json) :
    (clientProtocol.taken call wake state).left = .inr (.ok (some data)) ↔
      wake.cutOff = none ∧ Brings wake wake.reply data := by
  subst waits
  have move := client_move (.waiting transport ticket followed) wake state
  simp only [Protocol.taken, clientProtocol]
  generalize advanceClient (.waiting transport ticket followed) wake state = after at move
  cases move with
  | cutOff call message isCut => exact iff_of_false (by simp) (by simp [isCut])
  | sendsOn _ _ _ redirect uncut sentOn room =>
      exact iff_of_false (by simp) fun both => redirected_brings wake _ redirect sentOn data both.2
  | fails _ _ _ after error uncut same full none => exact iff_of_false (by simp) fun both => none data both.2
  | answered _ _ _ after given uncut same brings =>
      constructor
      · intro isGiven
        cases isGiven
        exact ⟨uncut, brings⟩
      · rintro ⟨_, _, _, reply, _⟩
        obtain ⟨_, _, given, _⟩ := brings
        cases reply.symm.trans given
        rfl

end Steps

section Newest

variable (past : List ClientStep) (step : ClientStep) (ticket : Ticket)

theorem newest_granted (granted : Grants step ticket) : Newest (past ++ [step]) ticket :=
  ⟨past, step, [], rfl, granted, by simp⟩

theorem newest_kept (newest : Newest past ticket) (quiet : ∀ other, ¬ Grants step other) :
    Newest (past ++ [step]) ticket := by
  obtain ⟨earlier, login, later, split, granted, none⟩ := newest
  refine ⟨earlier, login, later ++ [step], ?_, granted, ?_⟩
  · rw [split, List.append_assoc, List.cons_append]
  · intro other member
    rcases List.mem_append.mp member with inside | isLast
    · exact none other inside
    · rw [List.mem_singleton.mp isLast]
      exact quiet

end Newest

structure Credentials (past : List ClientStep) (pool : Protocol.Pool ClientState ClientCall) : Prop where
  newest : ∀ ticket, pool.shared.ticket = some ticket → Newest past ticket
  guarded : ∀ call ∈ pool.calls, ∀ transport, .send transport ∈ call.unsent → transport.Guarded
  left : ∀ call ∈ pool.calls, (∃ request, call = ClientRequest.enter request) ∨ ∃ step ∈ past, step.left = .inl call
  passed : ∀ transport, .holding transport ∈ pool.calls → ∃ step ∈ past, LetThrough step transport
  read : ∀ transport ticket, .sending transport ticket ∈ pool.calls → ReadNewest past transport ticket

theorem read_newest_later (past : List ClientStep) (step : ClientStep) (transport : Transport) (ticket : Ticket)
    (read : ReadNewest past transport ticket) : ReadNewest (past ++ [step]) transport ticket := by
  obtain ⟨earlier, reading, later, split, left, newest, passed⟩ := read
  exact ⟨earlier, reading, later ++ [step], by rw [split, List.append_assoc, List.cons_append], left, newest, passed⟩

theorem credentials_advanced (past : List ClientStep) (pool : Protocol.Pool ClientState ClientCall)
    (call : ClientCall) (wake : Wake) (rest : List ClientCall) (perm : pool.calls.Perm (call :: rest))
    (credentials : Credentials past pool) :
    Credentials (past ++ [clientProtocol.taken call wake pool.shared])
      ⟨(clientProtocol.taken call wake pool.shared).after,
        Protocol.resume (clientProtocol.taken call wake pool.shared).left rest⟩ where
  newest := by
    intro ticket held
    rcases ticket_step call wake pool.shared with ⟨stored, granted, now⟩ | ⟨quiet, same⟩
    · have isStored : ticket = stored := Option.some.inj (held.symm.trans now)
      rw [isStored]
      exact newest_granted past _ stored granted
    · exact newest_kept past _ ticket (credentials.newest ticket (same.symm.trans held)) quiet
  guarded := by
    intro other member transport unsent
    rcases Protocol.in_flight_after pool.calls rest call perm _ other member with mine | waiting
    · apply credentials.guarded call (perm.mem_iff.mpr List.mem_cons_self) transport
      rw [unsent_spent call wake pool.shared, mine]
      apply List.mem_append_right
      rw [Protocol.resume, List.flatMap_singleton]
      exact unsent
    · exact credentials.guarded other waiting transport unsent
  left := by
    intro other member
    rcases Protocol.in_flight_after pool.calls rest call perm _ other member with mine | waiting
    · exact Or.inr ⟨_, List.mem_append_right _ (List.mem_singleton_self _), mine⟩
    · rcases credentials.left other waiting with entered | ⟨step, was, same⟩
      · exact Or.inl entered
      · exact Or.inr ⟨step, List.mem_append_left _ was, same⟩
  passed := by
    intro transport member
    rcases Protocol.in_flight_after pool.calls rest call perm _ _ member with mine | waiting
    · exact ⟨_, List.mem_append_right _ (List.mem_singleton_self _), let_through call wake pool.shared transport mine⟩
    · obtain ⟨step, was, passed⟩ := credentials.passed transport waiting
      exact ⟨step, List.mem_append_left _ was, passed⟩
  read := by
    intro transport ticket member
    rcases Protocol.in_flight_after pool.calls rest call perm _ _ member with mine | waiting
    · obtain ⟨isHolding, stored⟩ := read_step call wake pool.shared transport ticket mine
      have found : ClientCall.holding transport ∈ pool.calls := isHolding ▸ perm.mem_iff.mpr List.mem_cons_self
      exact ⟨past, _, [], rfl, mine, credentials.newest ticket stored, credentials.passed transport found⟩
    · exact read_newest_later past _ transport ticket (credentials.read transport ticket waiting)

theorem run_credentials (turns : List ClientTurn)
    (guarded : ∀ transport, .send transport ∈ Protocol.requests turns → transport.Guarded) :
    Credentials (clientProtocol.steps ⟨.new, []⟩ turns) (clientProtocol.machine.run ⟨.new, []⟩ turns) := by
  have kept := clientProtocol.requests_history ⟨.new, []⟩ (fun _ _ _ => True)
    (fun wanted past pool => (∀ transport, .send transport ∈ wanted → transport.Guarded) → Credentials past pool)
    (by
      intro _
      refine ⟨?_, by simp, by simp, by simp, by simp⟩
      intro ticket held
      cases held)
    (by
      intro wanted past pool request before asked
      have credentials := before fun transport member => asked transport (List.mem_append_left _ member)
      refine ⟨credentials.newest, ?_, ?_, ?_, ?_⟩
      · intro call member transport unsent
        rcases List.mem_cons.mp member with isNew | older
        · subst isNew
          cases request <;> cases List.mem_singleton.mp unsent
          exact asked transport (List.mem_append_right _ (List.mem_singleton_self _))
        · exact credentials.guarded call older transport unsent
      · intro call member
        rcases List.mem_cons.mp member with isNew | older
        · exact Or.inl ⟨request, isNew⟩
        · exact credentials.left call older
      · intro transport member
        rcases List.mem_cons.mp member with isNew | older
        · cases request <;> cases isNew
        · exact credentials.passed transport older
      · intro transport ticket member
        rcases List.mem_cons.mp member with isNew | older
        · cases request <;> cases isNew
        · exact credentials.read transport ticket older)
    (by
      intro wanted past pool call wake rest perm _ before asked
      exact credentials_advanced past pool call wake rest perm (before asked))
    turns (fun _ _ _ _ _ _ => trivial)
  exact kept guarded

theorem sent_authorised (base : String) (past : List ClientStep) (pool : Protocol.Pool ClientState ClientCall)
    (credentials : Credentials past pool) (call : ClientCall) (member : call ∈ pool.calls) (wake : Wake)
    (request : HttpRequest) (isSent : sent base (clientProtocol.taken call wake pool.shared) = some request) :
    Authorised base past (clientProtocol.taken call wake pool.shared) request := by
  have move := client_move call wake pool.shared
  have own := credentials.guarded call member
  have origin := credentials.left call member
  cases taken : advanceClient call wake pool.shared with
  | mk after left =>
      have step : clientProtocol.taken call wake pool.shared = ⟨pool.shared, call, wake, after, left⟩ :=
        clientProtocol.taken_of_advance _ _ _ _ _ taken
      rw [taken] at move
      rw [step] at isSent ⊢
      cases move with
      | posts next uncut =>
          cases isSent
          exact .login next rfl
      | postsOn next followed redirect uncut sentOn room =>
          simp only [sent, List.foldl_append, List.foldl_cons, List.foldl_nil, Option.some.injEq] at isSent
          subst isSent
          rcases origin with ⟨other, same⟩ | ⟨before, was, same⟩
          · cases other <;> cases same
          · exact .redirected before _ redirect was same (by rw [sent, same]) sentOn
      | granted next followed after ticket uncut stored brings => cases next <;> cases isSent
      | sends transport ticket uncut =>
          cases isSent
          refine .own transport ticket rfl (credentials.read transport ticket member) ?_
          intro changes
          have guarded := own transport (List.mem_singleton_self _) changes
          rw [Transport.request, if_pos guarded]
      | sendsOn transport ticket followed redirect uncut sentOn room =>
          simp only [sent, List.foldl_append, List.foldl_cons, List.foldl_nil, Option.some.injEq] at isSent
          subst isSent
          rcases origin with ⟨other, same⟩ | ⟨before, was, same⟩
          · cases other <;> cases same
          · exact .redirected before _ redirect was same (by rw [sent, same]) sentOn
      | _ => cases isSent

theorem typed_requests (turns : List (Protocol.Turn ClientUse Wake)) :
    Protocol.requests (turns.map ClientUse.turn) = (Protocol.requests turns).map ClientUse.request := by
  rw [Protocol.requests, Protocol.requests, List.filterMap_map, List.map_filterMap]
  congr 1
  funext turn
  cases turn <;> rfl

theorem typed_guarded (turns : List (Protocol.Turn ClientUse Wake)) (transport : Transport)
    (asked : .send transport ∈ Protocol.requests (turns.map ClientUse.turn)) : transport.Guarded := by
  rw [typed_requests] at asked
  obtain ⟨use, _, same⟩ := List.mem_map.mp asked
  cases use with
  | login => cases same
  | calls method =>
      cases same
      exact method_guarded method

-- The turns are all the interleavings of the calls, with whatever the clock, reqwest and the cluster say.
theorem client_sends_once (base : String) (turns : List (Protocol.Turn ClientUse Wake)) :
    SentOnce base (Protocol.requests turns) (clientProtocol.steps ⟨.new, []⟩ (turns.map ClientUse.turn))
      (clientProtocol.machine.run ⟨.new, []⟩ (turns.map ClientUse.turn)).calls where
  once := by
    rw [← typed_requests]
    refine clientProtocol.requests_accounted .new ClientCall.unsent (fun step => begun step ++ dropped step) ?_ ?_ _
    · intro request
      cases request <;> rfl
    · intro call wake state
      exact List.Perm.of_eq (unsent_spent call wake state)
  sends := by
    intro step member begins
    obtain ⟨call, wake, state, same, _⟩ := steps_ticketed .new _ step member
    subst same
    exact (sends_iff base call wake state).mpr (begun_goes_out call wake state begins)
  drops := by
    intro step member drops
    obtain ⟨call, wake, state, same, ticketed⟩ := steps_ticketed .new _ step member
    subst same
    exact dropped_early call wake state ticketed drops
  authorised := by
    intro earlier step later split request isSent
    obtain ⟨before, index, wake, after, call, isTurns, past, found, isStep⟩ :=
      clientProtocol.steps_split _ _ earlier later step split
    have credentials := run_credentials before fun transport asked => by
      apply typed_guarded turns transport
      rw [isTurns, Protocol.requests, List.filterMap_append]
      exact List.mem_append_left _ asked
    subst past isStep
    exact sent_authorised base _ _ credentials call (List.mem_of_getElem? found) wake request isSent
  answers := by
    intro step member transport ticket followed waits data
    obtain ⟨call, wake, state, same, _⟩ := steps_ticketed .new _ step member
    subst same
    exact own_outcome call wake state transport ticket followed waits data

end Moxui.Proxmox
