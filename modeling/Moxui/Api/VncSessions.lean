import Moxui.Lib.Machine
import Moxui.Lib.Table
import Moxui.Api.ClusterIsolation

set_option autoImplicit false

namespace Moxui.Api

def maxVncConnectionsPerVm : UInt32 :=
  5

structure VncConnectionLimiter where
  used : UInt32
  cap : UInt32
deriving DecidableEq

def VncConnectionLimiter.new (cap : UInt32) : VncConnectionLimiter :=
  { used := 0, cap := cap }

-- The slot is taken by one compare-and-exchange, so taking it is one step.
def VncConnectionLimiter.tryAcquire (limiter : VncConnectionLimiter) : Option VncConnectionLimiter :=
  if limiter.used ≥ limiter.cap then none else some { limiter with used := limiter.used + 1 }

-- `Drop` of a guard: `fetch_sub`, which wraps.
def VncConnectionLimiter.dropGuard (limiter : VncConnectionLimiter) : VncConnectionLimiter :=
  { limiter with used := limiter.used - 1 }

-- What there is of the consoles, by the key of their VM: handlers that hold a guard, upgrades
-- whose callback has not been called yet, and calls of `proxmox_vnc_proxy`.
structure VncState where
  limiters : Table String VncConnectionLimiter
  holding : List String
  upgrading : List String
  running : List String

def VncState.empty : VncState :=
  { limiters := ∅, holding := [], upgrading := [], running := [] }

def VncState.limiter (vnc : VncState) (key : String) : VncConnectionLimiter :=
  (vnc.limiters.lookup key).getD (.new maxVncConnectionsPerVm)

def VncState.tryAcquire (vnc : VncState) (key : String) : VncState × Bool :=
  match (vnc.limiter key).tryAcquire with
  | some taken => ({ vnc with limiters := vnc.limiters.insert key taken, holding := key :: vnc.holding }, true)
  | none => ({ vnc with limiters := vnc.limiters.insert key (vnc.limiter key) }, false)

-- The guard is a local of the handler, so it is dropped when the handler returns its response;
-- the callback that was given to `on_upgrade` is still to come.
def VncState.handlerReturns (vnc : VncState) (key : String) : VncState :=
  { vnc with
    limiters := vnc.limiters.insert key (vnc.limiter key).dropGuard
    holding := vnc.holding.erase key
    upgrading := key :: vnc.upgrading }

def VncState.proxyStarts (vnc : VncState) (key : String) : VncState :=
  { vnc with upgrading := vnc.upgrading.erase key, running := key :: vnc.running }

def VncState.upgradeFails (vnc : VncState) (key : String) : VncState :=
  { vnc with upgrading := vnc.upgrading.erase key }

def VncState.proxyEnds (vnc : VncState) (key : String) : VncState :=
  { vnc with running := vnc.running.erase key }

inductive VncInput where
  | request (entry : Entry) (oracle : Dialogue.Oracle Upstream Answer)
  | handlerReturns (key : String)
  | upgraded (key : String)
  | upgradeFailed (key : String)
  | disconnected (key : String)

def acquireSlot (key : String) (state : AppState VncState) : AppState VncState × Bool :=
  ({ state with rest := (state.rest.tryAcquire key).1 }, (state.rest.tryAcquire key).2)

section Sessions

variable (libs : ApiLibs)

def vncRequest (entry : Entry) (oracle : Dialogue.Oracle Upstream Answer) (state : AppState VncState) :
    AppState VncState × Response :=
  (Dialogue.run oracle [] (runCommand (fun entry => vncWsHandler libs entry acquireSlot) entry state)).2

-- Any request may come at any time, a handler that holds a guard returns at some time, and each
-- connection is upgraded or not, and is closed, when the browser or the cluster does so.
def vncMachine : Machine (AppState VncState) VncInput (Option Response) where
  step state input :=
    match input with
    | .request entry oracle =>
        let served := vncRequest libs entry oracle state
        (served.1, some served.2)
    | .handlerReturns key =>
        if key ∈ state.rest.holding then ({ state with rest := state.rest.handlerReturns key }, none) else (state, none)
    | .upgraded key =>
        if key ∈ state.rest.upgrading then ({ state with rest := state.rest.proxyStarts key }, none) else (state, none)
    | .upgradeFailed key => ({ state with rest := state.rest.upgradeFails key }, none)
    | .disconnected key => ({ state with rest := state.rest.proxyEnds key }, none)

def CapHolds (state : AppState VncState) : Prop :=
  ∀ key, state.rest.running.count key ≤ maxVncConnectionsPerVm.toNat

def limiterKey (path : VmPath) : String :=
  path.cluster ++ ":" ++ path.node ++ ":" ++ toString path.vmid

structure AsksForSlot (entry : Entry) (oracle : Dialogue.Oracle Upstream Answer) (state : AppState VncState)
    (path : VmPath) : Prop where
  named : vmPath libs entry = .ok path
  verified : ∃ token secret, libs.vncWsQuery entry.request = .ok token ∧ state.vncSecret = some secret ∧
    libs.verifyVncToken secret token = .ok (vncSubject path)
  upgrades : ∃ upgrade, libs.webSocketUpgrade entry.request = .ok upgrade
  answered : ∃ client data, state.client path.cluster = some client ∧
    oracle [] ⟨client.name, .vncProxy path.node path.vmid⟩ = .ok data

def VncState.unguarded (vnc : VncState) (key : String) : Nat :=
  vnc.upgrading.count key + vnc.running.count key

-- If consoles of the VM have outlived their guards when the limiter gives one more, these and
-- the guards make fewer than the cap.
def OpensInPlace (state : AppState VncState) (input : VncInput) : Prop :=
  match input with
  | .request entry oracle =>
      ∀ path, AsksForSlot libs entry oracle state path →
        (state.rest.limiter (limiterKey path)).used < (state.rest.limiter (limiterKey path)).cap →
        state.rest.unguarded (limiterKey path) ≠ 0 →
        (state.rest.limiter (limiterKey path)).used.toNat + state.rest.unguarded (limiterKey path) <
          maxVncConnectionsPerVm.toNat
  | _ => True

def OnlyOpens : VncInput → Prop
  | .handlerReturns _ | .upgraded _ => True
  | _ => False

theorem command_result {ρ : Type} (command : Command ρ) (state : AppState ρ) (oracle : Dialogue.Oracle Upstream Answer) :
    (∃ error, (Dialogue.run oracle [] (command.run state)).2 = failed state error) ∨
      ∃ call data, command.call = .ok call ∧
        (Dialogue.run oracle [] (command.run state)).2 = command.finish data state ∧ command.checks = .ok () ∧
        ∃ client, state.client command.cluster = some client ∧ oracle [] ⟨client.name, call⟩ = .ok data := by
  unfold Command.run
  cases command.checks with
  | error error => exact Or.inl ⟨error, rfl⟩
  | ok checked =>
      cases known : state.client command.cluster with
      | none => exact Or.inl ⟨command.missing, rfl⟩
      | some client =>
          cases command.call with
          | error error => exact Or.inl ⟨error, rfl⟩
          | ok call =>
              simp only [Dialogue.run_ask, Dialogue.run_done]
              cases answered : oracle [] ⟨client.name, call⟩ with
              | error error => exact Or.inl ⟨error, rfl⟩
              | ok data => exact Or.inr ⟨call, data, rfl, rfl, trivial, client, rfl, answered⟩

section Requests

variable (entry : Entry) (oracle : Dialogue.Oracle Upstream Answer) (state : AppState VncState)

theorem asks_same (path other : VmPath) (asks : AsksForSlot libs entry oracle state path)
    (asksOther : AsksForSlot libs entry oracle state other) : other = path := by
  have same := asks.named
  rw [asksOther.named] at same
  exact Except.ok.inj same

theorem slot_asked (path : VmPath) (asks : AsksForSlot libs entry oracle state path) :
    (vncRequest libs entry oracle state).1 = (acquireSlot (limiterKey path) state).1 := by
  obtain ⟨token, secret, carried, configured, verified⟩ := asks.verified
  obtain ⟨upgrade, upgrades⟩ := asks.upgrades
  obtain ⟨client, data, known, answered⟩ := asks.answered
  simp only [vncRequest, runCommand, vncWsHandler, asks.named, carried, upgrades, bind, Except.bind, configured,
    verified, if_true, Command.run, known, Dialogue.run_ask, Dialogue.run_done, answered]
  change (if (acquireSlot (limiterKey path) state).2 = true then
      ((acquireSlot (limiterKey path) state).1, upgrade)
    else failed (acquireSlot (limiterKey path) state).1 _).1 = _
  split <;> rfl

theorem slot_not_asked (never : ∀ path, ¬ AsksForSlot libs entry oracle state path) :
    (vncRequest libs entry oracle state).1 = state := by
  cases read : vncWsHandler libs entry acquireSlot state with
  | error response => simp only [vncRequest, runCommand, read, Dialogue.run_done]
  | ok command =>
      have ran : vncRequest libs entry oracle state = (Dialogue.run oracle [] (command.run state)).2 := by
        simp only [vncRequest, runCommand, read]
      obtain ⟨path, named, afterPath⟩ := except_bind_ok _ _ _ read
      obtain ⟨token, carried, afterToken⟩ := except_bind_ok _ _ _ afterPath
      obtain ⟨upgrade, upgrades, isCommand⟩ := except_bind_ok _ _ _ afterToken
      rw [ran]
      rcases command_result command state oracle with ⟨error, failing⟩ | ⟨call, data, called, _, passed, client, known, said⟩
      · exact congrArg Prod.fst failing
      · cases isCommand
        cases called
        refine absurd ⟨named, ?_, ⟨upgrade, upgrades⟩, ⟨client, data, known, said⟩⟩ (never path)
        dsimp only at passed
        split at passed
        · cases passed
        · rename_i secret configured
          split at passed
          · cases passed
          · rename_i sub verified
            split at passed
            · rename_i same
              exact ⟨token, secret, carried, configured, same ▸ verified⟩
            · cases passed

end Requests

inductive Change (state : AppState VncState) : VncInput → VncState → Prop where
  | nothing (input : VncInput) (idle : ∀ entry oracle path, input = .request entry oracle →
      ¬ AsksForSlot libs entry oracle state path) : Change state input state.rest
  | requested (entry : Entry) (oracle : Dialogue.Oracle Upstream Answer) (path : VmPath)
      (asks : AsksForSlot libs entry oracle state path) :
      Change state (.request entry oracle) (state.rest.tryAcquire (limiterKey path)).1
  | returned (key : String) (held : key ∈ state.rest.holding) :
      Change state (.handlerReturns key) (state.rest.handlerReturns key)
  | started (key : String) (waiting : key ∈ state.rest.upgrading) :
      Change state (.upgraded key) (state.rest.proxyStarts key)
  | failed (key : String) : Change state (.upgradeFailed key) (state.rest.upgradeFails key)
  | ended (key : String) : Change state (.disconnected key) (state.rest.proxyEnds key)

theorem step_change (state : AppState VncState) (input : VncInput) :
    Change libs state input ((vncMachine libs).step state input).1.rest := by
  cases input with
  | request entry oracle =>
      have after : ((vncMachine libs).step state (.request entry oracle)).1 = (vncRequest libs entry oracle state).1 := rfl
      rw [after]
      by_cases asks : ∃ path, AsksForSlot libs entry oracle state path
      · obtain ⟨path, asks⟩ := asks
        rw [slot_asked libs entry oracle state path asks]
        exact .requested entry oracle path asks
      · have never := not_exists.mp asks
        rw [slot_not_asked libs entry oracle state never]
        refine .nothing _ ?_
        intro other said path same
        cases same
        exact never path
  | handlerReturns key =>
      by_cases held : key ∈ state.rest.holding
      · simp only [vncMachine, held, if_true]
        exact .returned key held
      · simp only [vncMachine, held, if_false]
        exact .nothing _ fun _ _ _ same => by cases same
  | upgraded key =>
      by_cases waiting : key ∈ state.rest.upgrading
      · simp only [vncMachine, waiting, if_true]
        exact .started key waiting
      · simp only [vncMachine, waiting, if_false]
        exact .nothing _ fun _ _ _ same => by cases same
  | upgradeFailed key => exact .failed key
  | disconnected key => exact .ended key

def SlotsCounted (vnc : VncState) : Prop :=
  ∀ key, (vnc.limiter key).cap = maxVncConnectionsPerVm ∧ (vnc.limiter key).used.toNat = vnc.holding.count key ∧
    vnc.holding.count key ≤ maxVncConnectionsPerVm.toNat

theorem limiter_insert (vnc : VncState) (key found : String) (limiter : VncConnectionLimiter) (handlers : List String)
    (waiting : List String) :
    ({ vnc with limiters := vnc.limiters.insert key limiter, holding := handlers, upgrading := waiting } :
      VncState).limiter found = if found = key then limiter else vnc.limiter found := by
  rw [VncState.limiter, Table.lookup_insert_eq]
  by_cases same : found = key
  · rw [if_pos same, if_pos same]
    rfl
  · rw [if_neg same, if_neg same]
    rfl

theorem try_acquire_counted (vnc : VncState) (key : String) (counted : SlotsCounted vnc) :
    SlotsCounted (vnc.tryAcquire key).1 := by
  intro found
  obtain ⟨cap, used, bound⟩ := counted found
  by_cases full : (vnc.limiter key).used ≥ (vnc.limiter key).cap
  · rw [VncState.tryAcquire, VncConnectionLimiter.tryAcquire, if_pos full, limiter_insert]
    by_cases same : found = key
    · subst same
      rw [if_pos rfl]
      exact ⟨cap, used, bound⟩
    · rw [if_neg same]
      exact ⟨cap, used, bound⟩
  · rw [VncState.tryAcquire, VncConnectionLimiter.tryAcquire, if_neg full, limiter_insert]
    by_cases same : found = key
    · subst same
      have room : vnc.holding.count found < maxVncConnectionsPerVm.toNat := by
        rw [← used, ← cap]
        exact UInt32.lt_iff_toNat_lt.mp (UInt32.not_le.mp full)
      have five : maxVncConnectionsPerVm.toNat = 5 := rfl
      have next : ((vnc.limiter found).used + 1).toNat = vnc.holding.count found + 1 := by
        rw [UInt32.toNat_add, used]
        exact Nat.mod_eq_of_lt (by simp only [UInt32.toNat_one]; omega)
      rw [if_pos rfl]
      refine ⟨cap, ?_, ?_⟩
      · rw [next, List.count_cons_self]
      · rw [List.count_cons_self]
        exact room
    · rw [if_neg same, List.count_cons_of_ne (Ne.symm same)]
      exact ⟨cap, used, bound⟩

theorem handler_returns_counted (vnc : VncState) (key : String) (held : key ∈ vnc.holding) (counted : SlotsCounted vnc) :
    SlotsCounted (vnc.handlerReturns key) := by
  intro found
  obtain ⟨cap, used, bound⟩ := counted found
  rw [VncState.handlerReturns, limiter_insert]
  by_cases same : found = key
  · subst same
    have positive : 0 < vnc.holding.count found := List.count_pos_iff.mpr held
    have one : (1 : UInt32) ≤ (vnc.limiter found).used := by
      rw [UInt32.le_iff_toNat_le, used]
      exact positive
    rw [if_pos rfl]
    refine ⟨cap, ?_, ?_⟩
    · rw [VncConnectionLimiter.dropGuard, UInt32.toNat_sub_of_le _ _ one, used, List.count_erase_self]
      rfl
    · exact (List.erase_sublist.count_le found).trans bound
  · rw [if_neg same, List.count_erase_of_ne same]
    exact ⟨cap, used, bound⟩

def withoutConsoles {ρ : Type} (state : AppState ρ) : AppState VncState :=
  { clients := state.clients, auth := state.auth, vncSecret := state.vncSecret, rest := .empty, audit := state.audit }

theorem step_counted (state : AppState VncState) (input : VncInput) (counted : SlotsCounted state.rest) :
    SlotsCounted ((vncMachine libs).step state input).1.rest := by
  have change := step_change libs state input
  generalize ((vncMachine libs).step state input).1.rest = after at change ⊢
  cases change with
  | nothing _ _ => exact counted
  | requested entry oracle path asks => exact try_acquire_counted state.rest (limiterKey path) counted
  | returned key held => exact handler_returns_counted state.rest key held counted
  | started key waiting => exact counted
  | failed key => exact counted
  | ended key => exact counted

-- The limiter bounds the handlers that hold a guard, not the consoles.
theorem limiter_counts_handlers {ρ : Type} (server : AppState ρ) (inputs : List VncInput) :
    SlotsCounted ((vncMachine libs).run (withoutConsoles server) inputs).rest := by
  have initial : SlotsCounted (withoutConsoles server).rest := fun key => ⟨rfl, rfl, Nat.zero_le _⟩
  exact Machine.invariant (vncMachine libs) _ (fun state => SlotsCounted state.rest) initial (step_counted libs) inputs

def VncState.occupied (vnc : VncState) (key : String) : Nat :=
  vnc.holding.count key + vnc.unguarded key

theorem erase_count_add (keys : List String) (key found : String) (member : key ∈ keys) :
    (keys.erase key).count found + (key :: []).count found = keys.count found := by
  have whole := (List.perm_cons_erase member).count_eq found
  rw [List.count_cons] at whole
  rw [List.count_cons, List.count_nil]
  omega

theorem count_cons_one (keys : List String) (key found : String) :
    (key :: keys).count found = (key :: []).count found + keys.count found := by
  rw [List.count_cons, List.count_cons, List.count_nil]
  omega

theorem returned_occupied (vnc : VncState) (key found : String) (held : key ∈ vnc.holding) :
    (vnc.handlerReturns key).occupied found = vnc.occupied found := by
  have erased := erase_count_add vnc.holding key found held
  have added := count_cons_one vnc.upgrading key found
  simp only [VncState.occupied, VncState.unguarded, VncState.handlerReturns]
  omega

theorem started_occupied (vnc : VncState) (key found : String) (waiting : key ∈ vnc.upgrading) :
    (vnc.proxyStarts key).occupied found = vnc.occupied found := by
  have erased := erase_count_add vnc.upgrading key found waiting
  have added := count_cons_one vnc.running key found
  simp only [VncState.occupied, VncState.unguarded, VncState.proxyStarts]
  omega

theorem acquired_occupied_iff (vnc : VncState) (key : String) (counted : SlotsCounted vnc)
    (bound : ∀ found, vnc.occupied found ≤ maxVncConnectionsPerVm.toNat) :
    (∀ found, (vnc.tryAcquire key).1.occupied found ≤ maxVncConnectionsPerVm.toNat) ↔
      ((vnc.limiter key).used < (vnc.limiter key).cap → vnc.unguarded key ≠ 0 →
        (vnc.limiter key).used.toNat + vnc.unguarded key < maxVncConnectionsPerVm.toNat) := by
  obtain ⟨cap, used, _⟩ := counted key
  by_cases full : (vnc.limiter key).used ≥ (vnc.limiter key).cap
  · rw [VncState.tryAcquire, VncConnectionLimiter.tryAcquire, if_pos full]
    exact iff_of_true bound fun below => absurd full (UInt32.not_le.mpr below)
  · have below := UInt32.not_le.mp full
    have room : vnc.holding.count key < maxVncConnectionsPerVm.toNat := by
      rw [← used, ← cap]
      exact UInt32.lt_iff_toNat_lt.mp below
    rw [VncState.tryAcquire, VncConnectionLimiter.tryAcquire, if_neg full, used]
    constructor
    · intro after _ _
      have own := after key
      simp only [VncState.occupied, VncState.unguarded, List.count_cons_self] at own ⊢
      omega
    · intro inPlace found
      by_cases same : found = key
      · subst same
        simp only [VncState.occupied, VncState.unguarded, List.count_cons_self] at inPlace room ⊢
        by_cases guarded : vnc.upgrading.count found + vnc.running.count found = 0
        · omega
        · have fits := inPlace below guarded
          omega
      · have others := bound found
        simp only [VncState.occupied, VncState.unguarded, List.count_cons_of_ne (Ne.symm same)] at others ⊢
        exact others

def Placed (state : AppState VncState) : Prop :=
  SlotsCounted state.rest ∧ ∀ key, state.rest.occupied key ≤ maxVncConnectionsPerVm.toNat

theorem step_placed_iff (state : AppState VncState) (input : VncInput) (placed : Placed state) :
    Placed ((vncMachine libs).step state input).1 ↔ OpensInPlace libs state input := by
  obtain ⟨counted, bound⟩ := placed
  refine (and_iff_right (step_counted libs state input counted)).trans ?_
  have change := step_change libs state input
  generalize ((vncMachine libs).step state input).1.rest = after at change ⊢
  cases change with
  | nothing _ idle =>
      refine iff_of_true bound ?_
      cases input with
      | request entry oracle => exact fun path asks => absurd asks (idle entry oracle path rfl)
      | handlerReturns key | upgraded key | upgradeFailed key | disconnected key => trivial
  | requested entry oracle path asks =>
      rw [acquired_occupied_iff state.rest (limiterKey path) counted bound]
      constructor
      · intro inPlace other asksOther
        rw [asks_same libs entry oracle state path other asks asksOther]
        exact inPlace
      · intro inPlace
        exact inPlace path asks
  | returned key held => exact iff_of_true (fun found => returned_occupied _ key found held ▸ bound found) trivial
  | started key waiting => exact iff_of_true (fun found => started_occupied _ key found waiting ▸ bound found) trivial
  | failed key =>
      refine iff_of_true (fun found => ?_) trivial
      have fewer := (List.erase_sublist (a := key) (l := state.rest.upgrading)).count_le found
      have before := bound found
      simp only [VncState.occupied, VncState.unguarded, VncState.upgradeFails] at before ⊢
      omega
  | ended key =>
      refine iff_of_true (fun found => ?_) trivial
      have fewer := (List.erase_sublist (a := key) (l := state.rest.running)).count_le found
      have before := bound found
      simp only [VncState.occupied, VncState.unguarded, VncState.proxyEnds] at before ⊢
      omega

theorem opening_occupied (state : AppState VncState) (opening : List VncInput)
    (only : ∀ input ∈ opening, OnlyOpens input) (key : String) :
    ((vncMachine libs).run state opening).rest.occupied key = state.rest.occupied key := by
  induction opening generalizing state with
  | nil => rfl
  | cons input inputs ih =>
      have first : ((vncMachine libs).step state input).1.rest.occupied key = state.rest.occupied key := by
        have opens := only input List.mem_cons_self
        have change := step_change libs state input
        generalize ((vncMachine libs).step state input).1.rest = after at change ⊢
        cases change with
        | nothing _ _ => rfl
        | requested entry oracle path asks => exact absurd opens id
        | returned found held => exact returned_occupied _ found key held
        | started found waiting => exact started_occupied _ found key waiting
        | failed found => exact absurd opens id
        | ended found => exact absurd opens id
      exact (ih _ fun later member => only later (List.mem_cons_of_mem input member)).trans first

theorem opens_all (state : AppState VncState) (key : String) :
    ∃ opening, (∀ input ∈ opening, OnlyOpens input) ∧
      ((vncMachine libs).run state opening).rest.running.count key = state.rest.occupied key := by
  induction total : 2 * state.rest.holding.count key + state.rest.upgrading.count key using Nat.strong_induction_on
    generalizing state with
  | _ left ih =>
      by_cases held : key ∈ state.rest.holding
      · have after : ((vncMachine libs).step state (.handlerReturns key)).1.rest = state.rest.handlerReturns key := by
          simp only [vncMachine, held, if_true]
        have fewer : 2 * (state.rest.handlerReturns key).holding.count key +
            (state.rest.handlerReturns key).upgrading.count key < left := by
          have positive := List.count_pos_iff.mpr held
          simp only [VncState.handlerReturns, List.count_erase_self, List.count_cons_self]
          omega
        obtain ⟨opening, only, runs⟩ := ih _ fewer ((vncMachine libs).step state (.handlerReturns key)).1 (by rw [after])
        refine ⟨.handlerReturns key :: opening, List.forall_mem_cons.mpr ⟨trivial, only⟩, runs.trans ?_⟩
        rw [after, returned_occupied _ key key held]
      · by_cases waiting : key ∈ state.rest.upgrading
        · have after : ((vncMachine libs).step state (.upgraded key)).1.rest = state.rest.proxyStarts key := by
            simp only [vncMachine, waiting, if_true]
          have fewer : 2 * (state.rest.proxyStarts key).holding.count key +
              (state.rest.proxyStarts key).upgrading.count key < left := by
            have positive := List.count_pos_iff.mpr waiting
            simp only [VncState.proxyStarts, List.count_erase_self]
            omega
          obtain ⟨opening, only, runs⟩ := ih _ fewer ((vncMachine libs).step state (.upgraded key)).1 (by rw [after])
          refine ⟨.upgraded key :: opening, List.forall_mem_cons.mpr ⟨trivial, only⟩, runs.trans ?_⟩
          rw [after, started_occupied _ key key waiting]
        · refine ⟨[], by simp, ?_⟩
          rw [Machine.run_nil, VncState.occupied, VncState.unguarded, List.count_eq_zero.mpr held,
            List.count_eq_zero.mpr waiting]
          omega

theorem opening_capped_iff (state : AppState VncState) :
    (∀ opening, (∀ input ∈ opening, OnlyOpens input) → CapHolds ((vncMachine libs).run state opening)) ↔
      ∀ key, state.rest.occupied key ≤ maxVncConnectionsPerVm.toNat := by
  constructor
  · intro capped key
    obtain ⟨opening, only, runs⟩ := opens_all libs state key
    rw [← runs]
    exact capped opening only key
  · intro bound opening only key
    refine Nat.le_trans ?_ (bound key)
    rw [← opening_occupied libs state opening only key]
    simp only [VncState.occupied, VncState.unguarded]
    omega

-- The cap holds up to every point of the run, and then however the consoles that were let in
-- come to run.
theorem console_cap_iff {ρ : Type} (server : AppState ρ) (inputs : List VncInput) :
    (∀ earlier opening, earlier <+: inputs → (∀ input ∈ opening, OnlyOpens input) →
        CapHolds ((vncMachine libs).run (withoutConsoles server) (earlier ++ opening))) ↔
      ∀ occurrence ∈ (vncMachine libs).trace (withoutConsoles server) inputs,
        OpensInPlace libs occurrence.before occurrence.input := by
  have initial : Placed (withoutConsoles server) :=
    ⟨fun key => ⟨rfl, rfl, Nat.zero_le _⟩, fun key => Nat.zero_le _⟩
  refine Iff.trans ?_ ((Machine.prefixes_iff (vncMachine libs) Placed (OpensInPlace libs) (step_placed_iff libs) _
    inputs).trans (and_iff_right initial))
  simp only [Machine.run_append]
  constructor
  · intro capped earlier before
    exact ⟨limiter_counts_handlers libs server earlier,
      (opening_capped_iff libs _).mp fun opening only => capped earlier opening before only⟩
  · intro placed earlier opening before only
    exact (opening_capped_iff libs _).mpr (placed earlier before).2 opening only

end Sessions

-- The console of one VM, opened six times with one token; each handler returns before the next
-- request comes.
def consoleLibs : ApiLibs :=
  { bareLibs with
    vncWsQuery := fun _ => .ok "token"
    webSocketUpgrade := fun _ => .ok (textResponse 101 "")
    verifyVncToken := fun _ _ => .ok "vnc:lab:pve1:100" }

def consoleEntry : Entry :=
  ⟨.vncWsHandler, [("cluster", "lab"), ("node", "pve1"), ("vmid", "100")],
    { method := .get, path := "/api/v1/vms/lab/pve1/100/vnc/ws", query := some "vnc_token=token", headers := []
      body := [], claims := none }⟩

def consoleKey : String :=
  "lab:pve1:100"

def consoleServer : AppState Unit :=
  { twoClusters with vncSecret := some (Text.bytes "a secret of some length") }

def openConsole : List VncInput :=
  [.request consoleEntry fun _ _ => .ok (.obj [("port", .nat 5900), ("ticket", .str "t")]), .handlerReturns consoleKey,
    .upgraded consoleKey]

def sixConsoles : List VncInput :=
  openConsole ++ openConsole ++ openConsole ++ openConsole ++ openConsole ++ openConsole

theorem six_consoles_run :
    ¬∀ earlier, earlier <+: sixConsoles →
      CapHolds ((vncMachine consoleLibs).run (withoutConsoles consoleServer) earlier) := by
  intro holds
  have running : ((vncMachine consoleLibs).run (withoutConsoles consoleServer) sixConsoles).rest.running.count consoleKey =
      6 := by
    decide +kernel
  have capped := holds sixConsoles (List.prefix_refl _) consoleKey
  rw [running] at capped
  exact absurd capped (by decide)

end Moxui.Api
