import Mathlib.Data.Set.Subsingleton
import Moxui.Security.RateLimiter
import Moxui.Api.AuditTrail

set_option autoImplicit false

namespace Moxui.Api

open Moxui.Auth (Claims)
open Moxui.Security

structure TlsConfig where
  certPemPath : String
  keyPemPath : String

-- The connect info that the service which axum makes puts on the requests of one peer.
def intoMakeService (_peer : SocketAddr) : Option SocketAddr :=
  none

-- What `tls::serve` lets the layers know of the peer, with a certificate and without.
def connectInfo (tls : Option TlsConfig) : SocketAddr → Option SocketAddr :=
  match tls with
  | some _ => intoMakeService
  | none => intoMakeService

structure Incoming where
  peer : SocketAddr
  now : Nat
  arrival : Arrival

def Arrival.withVerdict (arrival : Arrival) (limited : Bool) : Arrival :=
  { arrival with env := { arrival.env with limited := limited } }

structure Served (governor : Governor) (ρ : Type) where
  limiter : Table Uuid governor.Cell
  app : AppState ρ

def ofIp (ip : IpAddr) (run : List Incoming) : List Incoming :=
  run.filter fun incoming => incoming.peer.ip = ip

structure Interleaving (clients : Set IpAddr) (run : List Incoming) : Prop where
  inOrder : run.Pairwise fun earlier later => earlier.now ≤ later.now
  peers : ∀ incoming ∈ run, incoming.peer.ip ∈ clients

section Served

variable {ρ : Type} (decode : String → Except String Claims) (libs : ApiLibs) (inner : QuietInner ρ)
  (governor : Governor) (quota : Quota) (tls : Option TlsConfig)

def limiterCheck (incoming : Incoming) : Check :=
  { clientKey := clientKey (connectInfo tls incoming.peer), now := incoming.now }

-- A preflight does not come as far as the limiter.
def checks (incoming : Incoming) : List Check :=
  if incoming.arrival.request.method = .options then [] else [limiterCheck tls incoming]

def passesLimiter (limiter : Table Uuid governor.Cell) (incoming : Incoming) : Table Uuid governor.Cell × Bool :=
  if incoming.arrival.request.method = .options then (limiter, true)
  else (governor.keyed quota).step limiter (limiterCheck tls incoming)

def servedMachine : Machine (Served governor ρ) Incoming Response where
  step state incoming :=
    let passes := passesLimiter governor quota tls state.limiter incoming
    let answered := (routerMachine decode libs inner).step state.app (incoming.arrival.withVerdict (!passes.2))
    ({ limiter := passes.1, app := answered.1 }, answered.2)

def serverStart (app : AppState ρ) : Served governor ρ :=
  { limiter := ∅, app := app }

def refusals (app : AppState ρ) (ip : IpAddr) (run : List Incoming) : List Bool :=
  (((servedMachine decode libs inner governor quota tls).trace (serverStart governor app) run).filter fun occurrence =>
    occurrence.input.peer.ip = ip).map fun occurrence => occurrence.output.status = 429

def RateIsolated (app : AppState ρ) (clients : Set IpAddr) : Prop :=
  ∀ ip first second, Interleaving clients first → Interleaving clients second → ofIp ip first = ofIp ip second →
    refusals decode libs inner governor quota tls app ip first = refusals decode libs inner governor quota tls app ip second

theorem limiter_follows :
    Machine.Follows (servedMachine decode libs inner governor quota tls) (governor.keyed quota) Served.limiter
      fun occurrence => checks tls occurrence.input := by
  refine ⟨?_⟩
  intro state incoming
  by_cases preflight : incoming.arrival.request.method = .options
  · simp only [servedMachine, passesLimiter, checks, Machine.event, preflight, if_true, Machine.run_nil]
  · simp only [servedMachine, passesLimiter, checks, Machine.event, preflight, if_false, Machine.run]

theorem limiter_after (app : AppState ρ) (run : List Incoming) :
    ((servedMachine decode libs inner governor quota tls).run (serverStart governor app) run).limiter =
      (governor.keyed quota).run ∅ (run.flatMap (checks tls)) := by
  have follows := (limiter_follows decode libs inner governor quota tls).run (serverStart governor app) run
  have moves : Machine.movesOf (fun occurrence => checks tls occurrence.input)
      ((servedMachine decode libs inner governor quota tls).trace (serverStart governor app) run) =
      run.flatMap (checks tls) := by
    have inputs := Machine.trace_inputs (servedMachine decode libs inner governor quota tls) (serverStart governor app) run
    rw [Machine.movesOf, ← List.flatMap_map Machine.Event.input (checks tls), inputs]
  rw [follows, moves]
  rfl

theorem refused_status (state : Served governor ρ) (incoming : Incoming)
    (reaches : incoming.arrival.request.method ≠ .options)
    (refused : ((governor.keyed quota).step state.limiter (limiterCheck tls incoming)).2 = false) :
    ((servedMachine decode libs inner governor quota tls).step state incoming).2.status = 429 := by
  have verdict : (passesLimiter governor quota tls state.limiter incoming).2 = false := by
    rw [passesLimiter, if_neg reaches, refused]
  have stopped : ¬ (incoming.arrival.withVerdict true).Reaches := by
    intro through
    cases through.2
  have status := (step_stopped decode libs inner state.app _ stopped).2
  have method : (incoming.arrival.withVerdict true).request.method ≠ .options := reaches
  rw [if_neg method] at status
  simp only [servedMachine, verdict, Bool.not_false]
  exact status

theorem passed_status (state : Served governor ρ) (incoming : Incoming)
    (reaches : incoming.arrival.request.method ≠ .options)
    (passed : ((governor.keyed quota).step state.limiter (limiterCheck tls incoming)).2 = true) :
    ((servedMachine decode libs inner governor quota tls).step state incoming).2.status =
      (routed decode libs inner state.app incoming.arrival).2.status := by
  have verdict : (passesLimiter governor quota tls state.limiter incoming).2 = true := by
    rw [passesLimiter, if_neg reaches, passed]
  have through : (incoming.arrival.withVerdict false).Reaches := ⟨reaches, rfl⟩
  have status := (step_reached decode libs inner state.app _ through).2
  simp only [servedMachine, verdict, Bool.not_true]
  exact status

theorem unsent_trace (app : AppState ρ) (ip : IpAddr) (run : List Incoming)
    (others : ∀ incoming ∈ run, incoming.peer.ip ≠ ip) :
    (((servedMachine decode libs inner governor quota tls).trace (serverStart governor app) run).filter
      fun occurrence => occurrence.input.peer.ip = ip) = [] := by
  rw [List.filter_eq_nil_iff]
  intro occurrence member sent
  exact others _ (Machine.trace_input_mem _ _ _ occurrence member) (of_decide_eq_true sent)

theorem isolated_alone (app : AppState ρ) (clients : Set IpAddr) (alone : clients.Subsingleton) :
    RateIsolated decode libs inner governor quota tls app clients := by
  intro ip first second firstRun secondRun same
  by_cases known : ip ∈ clients
  · have whole (run : List Incoming) (interleaving : Interleaving clients run) : ofIp ip run = run := by
      refine List.filter_eq_self.mpr ?_
      intro incoming member
      exact decide_eq_true (alone (interleaving.peers incoming member) known)
    rw [whole first firstRun, whole second secondRun] at same
    rw [same]
  · have nothing (run : List Incoming) (interleaving : Interleaving clients run) :
        refusals decode libs inner governor quota tls app ip run = [] := by
      refine congrArg (List.map _) (unsent_trace decode libs inner governor quota tls app ip run ?_)
      intro incoming member sent
      exact known (sent ▸ interleaving.peers incoming member)
    rw [nothing first firstRun, nothing second secondRun]

theorem refusals_snoc (app : AppState ρ) (ip : IpAddr) (earlier : List Incoming) (incoming : Incoming)
    (others : ∀ other ∈ earlier, other.peer.ip ≠ ip) (own : incoming.peer.ip = ip) :
    refusals decode libs inner governor quota tls app ip (earlier ++ [incoming]) =
      [decide (((servedMachine decode libs inner governor quota tls).step
        ((servedMachine decode libs inner governor quota tls).run (serverStart governor app) earlier) incoming).2.status =
          429)] := by
  have unsent := unsent_trace decode libs inner governor quota tls app ip earlier others
  unfold refusals
  rw [Machine.trace_snoc, List.filter_append, unsent, List.nil_append, List.filter_singleton]
  have kept : (decide ((Machine.event (servedMachine decode libs inner governor quota tls)
      ((servedMachine decode libs inner governor quota tls).run (serverStart governor app) earlier) incoming).input.peer.ip =
        ip)) = true := decide_eq_true own
  rw [kept]
  rfl

def knock (ip : IpAddr) : Incoming :=
  { peer := ⟨ip, 40000⟩
    now := 0
    arrival := sending false
      { method := .delete, path := "/health", query := none, headers := [], body := [], claims := none } rfl }

theorem knock_answered (app : AppState ρ) (ip : IpAddr) :
    (routed decode libs inner app (knock ip).arrival).2.status = 405 := by
  have found : findRoute "/health" routes = some (route [lit "health"] (get .health), []) := by decide +kernel
  have dispatched : (dispatch decode app (knock ip).arrival.request).outcome = .error methodNotAllowed := by
    unfold dispatch
    rw [show (knock ip).arrival.request.path = "/health" from rfl, found]
    rfl
  unfold routed router
  rw [dispatched]
  rfl

theorem connect_info_missing (peer : SocketAddr) : connectInfo tls peer = none := by
  cases tls <;> rfl

theorem knock_checks (ip other : IpAddr) : checks tls (knock ip) = [limiterCheck tls (knock other)] := by
  simp only [checks, limiterCheck, connect_info_missing, knock, sending]
  rfl

theorem knock_refused_iff (bursts : governor.Bursts quota) (app : AppState ρ) (ip other : IpAddr) (knocks : Nat) :
    ((servedMachine decode libs inner governor quota tls).step
      ((servedMachine decode libs inner governor quota tls).run (serverStart governor app)
        (List.replicate knocks (knock other))) (knock ip)).2.status = 429 ↔ quota.burst.toNat ≤ knocks := by
  have reaches : (knock ip).arrival.request.method ≠ .options := by
    intro preflight
    cases preflight
  have before := limiter_after decode libs inner governor quota tls app (List.replicate knocks (knock other))
  have flat : (List.replicate knocks (knock other)).flatMap (checks tls) =
      List.replicate knocks (limiterCheck tls (knock ip)) := by
    rw [List.flatMap_replicate, knock_checks tls other ip, List.flatten_replicate_singleton]
  rw [flat] at before
  have verdict := checks_of_one_key governor quota bursts (limiterCheck tls (knock ip)) knocks
  rw [← before] at verdict
  by_cases inside : knocks < quota.burst.toNat
  · have status := passed_status decode libs inner governor quota tls _ (knock ip) reaches (verdict.mpr inside)
    rw [status, knock_answered]
    omega
  · have status := refused_status decode libs inner governor quota tls _ (knock ip) reaches
      (Bool.eq_false_iff.mpr (verdict.not.mpr inside))
    rw [status]
    omega

theorem knocks_interleave (clients : Set IpAddr) (ip other : IpAddr) (known : ip ∈ clients) (otherKnown : other ∈ clients)
    (knocks : Nat) : Interleaving clients (List.replicate knocks (knock other) ++ [knock ip]) := by
  have knocking : ∀ incoming ∈ List.replicate knocks (knock other) ++ [knock ip],
      incoming = knock other ∨ incoming = knock ip := by
    intro incoming member
    rcases List.mem_append.mp member with crowd | last
    · exact Or.inl (List.eq_of_mem_replicate crowd)
    · exact Or.inr (List.mem_singleton.mp last)
  refine ⟨?_, ?_⟩
  · refine List.pairwise_iff_forall_sublist.mpr ?_
    intro earlier later listed
    have member := listed.subset
    have atOnce : ∀ incoming ∈ [earlier, later], incoming.now = 0 := by
      intro incoming inside
      rcases knocking incoming (member inside) with rfl | rfl <;> rfl
    rw [atOnce earlier (by simp), atOnce later (by simp)]
  · intro incoming member
    rcases knocking incoming member with rfl | rfl
    · exact otherKnown
    · exact known

-- All requests are counted under one key, so one address spends what another would have had.
theorem addresses_interfere (bursts : governor.Bursts quota) (app : AppState ρ) (clients : Set IpAddr) (ip other : IpAddr)
    (known : ip ∈ clients) (otherKnown : other ∈ clients) (different : other ≠ ip) :
    ¬ RateIsolated decode libs inner governor quota tls app clients := by
  intro isolated
  have refused (knocks : Nat) : refusals decode libs inner governor quota tls app ip
      (List.replicate knocks (knock other) ++ [knock ip]) = [decide (quota.burst.toNat ≤ knocks)] := by
    have others : ∀ incoming ∈ List.replicate knocks (knock other), incoming.peer.ip ≠ ip := by
      intro incoming member
      rw [List.eq_of_mem_replicate member]
      exact different
    rw [refusals_snoc decode libs inner governor quota tls app ip _ _ others rfl]
    exact congrArg (fun verdict => [verdict])
      (decide_eq_decide.mpr (knock_refused_iff decode libs inner governor quota tls bursts app ip other knocks))
  have ownOnly (knocks : Nat) : ofIp ip (List.replicate knocks (knock other) ++ [knock ip]) = [knock ip] := by
    have unsent : ofIp ip (List.replicate knocks (knock other)) = [] := by
      rw [ofIp, List.filter_eq_nil_iff]
      intro incoming member sent
      rw [List.eq_of_mem_replicate member] at sent
      exact different (of_decide_eq_true sent)
    have own : ofIp ip [knock ip] = [knock ip] := List.filter_cons_of_pos (decide_eq_true rfl)
    rw [ofIp, List.filter_append]
    exact congrArg₂ (fun first second => first ++ second) unsent own
  have same := isolated ip _ _ (knocks_interleave clients ip other known otherKnown quota.burst.toNat)
    (knocks_interleave clients ip other known otherKnown 0) ((ownOnly _).trans (ownOnly 0).symm)
  rw [refused, refused] at same
  have spent : (decide (quota.burst.toNat ≤ quota.burst.toNat)) = true := decide_eq_true le_rfl
  have positive : quota.burst.toNat ≠ 0 := fun zero => quota.burstNonZero (UInt32.toNat_inj.mp zero)
  have left : (decide (quota.burst.toNat ≤ 0)) = false := decide_eq_false (by omega)
  rw [spent, left] at same
  cases same

theorem rate_limit_isolated_iff (bursts : governor.Bursts quota) (app : AppState ρ) (clients : Set IpAddr) :
    RateIsolated decode libs inner governor quota tls app clients ↔ clients.Subsingleton := by
  refine ⟨?_, isolated_alone decode libs inner governor quota tls app clients⟩
  intro isolated ip known other otherKnown
  by_contra different
  exact addresses_interfere decode libs inner governor quota tls bursts app clients other ip otherKnown known different
    isolated

end Served

def standardQuota : Quota :=
  { perSecond := 5, burst := 10, perSecondNonZero := by decide, burstNonZero := by decide }

example : RateLimitConfig.standard.quota = some standardQuota := rfl

theorem standard_bursts : cellRate.Bursts standardQuota :=
  cell_rate_bursts standardQuota (by decide)

def firstAddress : IpAddr :=
  .v4 10 0 0 1

def secondAddress : IpAddr :=
  .v4 10 0 0 2

theorem one_address_isolated :
    RateIsolated knowsAlice bareLibs quietInner cellRate standardQuota none twoClusters {firstAddress} :=
  (rate_limit_isolated_iff knowsAlice bareLibs quietInner cellRate standardQuota none standard_bursts twoClusters
    {firstAddress}).mpr Set.subsingleton_singleton

-- Ten requests from the first address use up what the second has.
theorem second_address_refused :
    ¬ RateIsolated knowsAlice bareLibs quietInner cellRate standardQuota none twoClusters Set.univ :=
  addresses_interfere knowsAlice bareLibs quietInner cellRate standardQuota none standard_bursts twoClusters Set.univ
    secondAddress firstAddress (Set.mem_univ _) (Set.mem_univ _) (by decide)

end Moxui.Api
