import Moxui.Lib.Machine
import Moxui.Auth.Oidc

set_option autoImplicit false

namespace Moxui.Auth

namespace OidcService

def second : Int :=
  1000000000

def minute : Int :=
  60 * second

inductive Input where
  | startLogin (providerName : String) (start : Except String OidcStart) (now : Int)
  | callback (stateKey code state : String) (now : Int)
      (exchange : PendingOidcState → String → Except String ProviderIdentity)

inductive Output where
  | started (result : Except String (String × String))
  | answered (result : Except String OidcUserInfo)

def machine : Machine OidcService Input Output where
  step service input :=
    match input with
    | .startLogin providerName start now =>
        let begun := startLogin providerName start now service
        (begun.1, .started begun.2)
    | .callback stateKey code state now exchange =>
        let handled := handleCallback stateKey code state now exchange service
        (handled.1, .answered handled.2)

abbrev Event : Type :=
  Machine.Event OidcService Input Output

def knownProvider (pending : PendingOidcState) : Prop :=
  pending.providerName = "google" ∨ pending.providerName = "github"

instance (pending : PendingOidcState) : Decidable (knownProvider pending) :=
  inferInstanceAs (Decidable (_ ∨ _))

def admitted (stateKey state : String) (now : Int) (service : OidcService) : Option PendingOidcState :=
  (service.stateStore.lookup stateKey).filter fun pending =>
    decide (¬ numMinutes (now - pending.createdAt) > pendingStateTtlMinutes ∧
      csrfValue state = pending.csrfTokenSecret ∧ knownProvider pending)

section Checks

theorem num_minutes_over (elapsed : Int) : numMinutes elapsed > pendingStateTtlMinutes ↔ 6 * minute ≤ elapsed := by
  unfold numMinutes pendingStateTtlMinutes minute second
  by_cases future : 0 ≤ elapsed
  · rw [Int.tdiv_eq_ediv_of_nonneg future, Int.tdiv_eq_ediv_of_nonneg (by omega)]
    omega
  · have seconds : elapsed.tdiv 1000000000 ≤ 0 := by
      have negated := Int.tdiv_nonneg (a := -elapsed) (b := 1000000000) (by omega) (by omega)
      rw [Int.neg_tdiv] at negated
      omega
    have minutes : (elapsed.tdiv 1000000000).tdiv 60 ≤ 0 := by
      have negated := Int.tdiv_nonneg (a := -(elapsed.tdiv 1000000000)) (b := 60) (by omega) (by omega)
      rw [Int.neg_tdiv] at negated
      omega
    omega

theorem csrf_value_iff (state secret : String) :
    csrfValue state = secret ↔ '.' ∉ secret.toList ∧ (state = secret ∨ ∃ rest, state = secret ++ "." ++ rest) := by
  unfold csrfValue
  constructor
  · rintro rfl
    refine ⟨?_, ?_⟩
    · intro dotted
      rw [String.toList_ofList] at dotted
      exact absurd rfl (bne_iff_ne.mp (List.mem_takeWhile_imp (p := fun char => char != '.') dotted))
    · have whole := List.takeWhile_append_dropWhile (p := fun char => char != '.') (l := state.toList)
      generalize state.toList.takeWhile (fun char => char != '.') = first at whole ⊢
      cases after : state.toList.dropWhile fun char => char != '.' with
      | nil =>
          refine Or.inl (String.toList_injective ?_)
          rw [String.toList_ofList, ← whole, after, List.append_nil]
      | cons char rest =>
          have isDot : char = '.' := by
            have stops := List.head_dropWhile_not (fun char => char != '.') (l := state.toList) (by simp [after])
            simpa [after] using stops
          refine Or.inr ⟨String.ofList rest, String.toList_injective ?_⟩
          rw [← whole, after, isDot]
          simp [String.toList_append]
  · rintro ⟨plain, rfl | ⟨rest, rfl⟩⟩
    · have kept : state.toList.takeWhile (fun char => char != '.') = state.toList :=
        List.takeWhile_eq_self_iff.mpr fun char member => bne_iff_ne.mpr fun same => plain (same ▸ member)
      rw [kept, String.ofList_toList]
    · have kept : ∀ char ∈ secret.toList, (char != '.') = true := fun char member =>
        bne_iff_ne.mpr fun same => plain (same ▸ member)
      rw [String.append_assoc, String.toList_append, List.takeWhile_append_of_pos kept, String.toList_append]
      simp

theorem admitted_iff (stateKey state : String) (now : Int) (service : OidcService) (pending : PendingOidcState) :
    admitted stateKey state now service = some pending ↔ service.stateStore.lookup stateKey = some pending ∧
      now - pending.createdAt < 6 * minute ∧ csrfValue state = pending.csrfTokenSecret ∧ knownProvider pending := by
  rw [admitted, Option.filter_eq_some_iff, decide_eq_true_eq, num_minutes_over, Int.not_le]

end Checks

section Gate

def Proceeds (occurrence : Event) (stateKey : String) : Prop :=
  ∃ code state now exchange pending, occurrence.input = .callback stateKey code state now exchange ∧
    admitted stateKey state now occurrence.before = some pending

def Stores (occurrence : Event) (stateKey : String) : Prop :=
  ∃ providerName begun now, occurrence.input = .startLogin providerName (.ok begun) now ∧ begun.stateKey = stateKey

def AdmitsExactly (occurrence : Event) : Prop :=
  ∀ stateKey code state now exchange pending, occurrence.input = .callback stateKey code state now exchange →
    admitted stateKey state now occurrence.before = some pending →
    occurrence.before.stateStore.lookup stateKey = some pending ∧ now - pending.createdAt ≤ 5 * minute ∧
      state = pending.csrfTokenSecret

structure CallbackGate (trace : List Event) : Prop where
  checked : ∀ occurrence ∈ trace, AdmitsExactly occurrence
  once : ∀ past first between next later stateKey, trace = past ++ first :: (between ++ next :: later) →
    Proceeds first stateKey → Proceeds next stateKey → ∃ stored ∈ between, Stores stored stateKey

-- The two kinds of callbacks that the checks let through although they should not.
def Overdue (pending : PendingOidcState) (state : String) (now : Int) : Prop :=
  csrfValue state = pending.csrfTokenSecret ∧ 5 * minute < now - pending.createdAt ∧
    now - pending.createdAt < 6 * minute

def Dotted (pending : PendingOidcState) (state : String) (now : Int) : Prop :=
  '.' ∉ pending.csrfTokenSecret.toList ∧ (∃ rest, state = pending.csrfTokenSecret ++ "." ++ rest) ∧
    now - pending.createdAt < 6 * minute

def InTimeAndWhole (occurrence : Event) : Prop :=
  ∀ stateKey code state now exchange pending, occurrence.input = .callback stateKey code state now exchange →
    occurrence.before.stateStore.lookup stateKey = some pending → knownProvider pending →
    ¬ Overdue pending state now ∧ ¬ Dotted pending state now

theorem admits_exactly_iff (occurrence : Event) : AdmitsExactly occurrence ↔ InTimeAndWhole occurrence := by
  constructor
  · intro exactly stateKey code state now exchange pending isInput present known
    refine ⟨?_, ?_⟩
    · rintro ⟨matched, late, early⟩
      have admits := (admitted_iff stateKey state now occurrence.before pending).mpr ⟨present, early, matched, known⟩
      have inTime := (exactly stateKey code state now exchange pending isInput admits).2.1
      omega
    · rintro ⟨plain, ⟨rest, dotted⟩, early⟩
      have matched := (csrf_value_iff state pending.csrfTokenSecret).mpr ⟨plain, Or.inr ⟨rest, dotted⟩⟩
      have admits := (admitted_iff stateKey state now occurrence.before pending).mpr ⟨present, early, matched, known⟩
      have whole := (exactly stateKey code state now exchange pending isInput admits).2.2
      have longer := congrArg (fun text => text.toList.length) (whole.symm.trans dotted)
      simp only [String.toList_append, List.length_append] at longer
      have dot : ".".toList.length = 1 := by decide
      omega
  · intro strict stateKey code state now exchange pending isInput admits
    obtain ⟨present, early, matched, known⟩ := (admitted_iff stateKey state now occurrence.before pending).mp admits
    obtain ⟨inTime, whole⟩ := strict stateKey code state now exchange pending isInput present known
    refine ⟨present, ?_, ?_⟩
    · by_cases late : 5 * minute < now - pending.createdAt
      · exact absurd ⟨matched, late, early⟩ inTime
      · omega
    · obtain ⟨plain, same | ⟨rest, dotted⟩⟩ := (csrf_value_iff state pending.csrfTokenSecret).mp matched
      · exact same
      · exact absurd ⟨plain, ⟨rest, dotted⟩, early⟩ whole

theorem lookup_callback (stateKey code state found : String) (now : Int)
    (exchange : PendingOidcState → String → Except String ProviderIdentity) (service : OidcService) :
    (handleCallback stateKey code state now exchange service).1.stateStore.lookup found =
      if found = stateKey then none else service.stateStore.lookup found := by
  unfold handleCallback
  cases present : service.stateStore.lookup stateKey with
  | none =>
      by_cases same : found = stateKey
      · rw [if_pos same, same]
        exact present
      · rw [if_neg same]
  | some pending =>
      rw [← Table.lookup_erase_eq stateKey found service.stateStore]
      dsimp only
      split
      · rfl
      · split
        · rfl
        · split
          · split <;> rfl
          · rfl

theorem start_adds_own (providerName found : String) (start : Except String OidcStart) (now : Int)
    (service : OidcService) (other : ∀ begun, start = .ok begun → begun.stateKey ≠ found) :
    (startLogin providerName start now service).1.stateStore.lookup found = service.stateStore.lookup found := by
  unfold startLogin
  split
  · cases start with
    | error reason => rfl
    | ok begun =>
        dsimp only
        rw [Table.lookup_insert_eq, if_neg (Ne.symm (other begun rfl))]
  · rfl

theorem step_adds_none (service : OidcService) (input : Input) (stateKey : String)
    (absent : service.stateStore.lookup stateKey = none) (storesNone : ¬ Stores (machine.event service input) stateKey) :
    (machine.step service input).1.stateStore.lookup stateKey = none := by
  cases input with
  | startLogin providerName start now =>
      refine (start_adds_own providerName stateKey start now service ?_).trans absent
      rintro begun rfl same
      exact storesNone ⟨providerName, begun, now, rfl, same⟩
  | callback taken code state now exchange =>
      refine (lookup_callback taken code state stateKey now exchange service).trans ?_
      rw [absent, ite_self]

theorem run_adds_none (service : OidcService) (inputs : List Input) (stateKey : String)
    (absent : service.stateStore.lookup stateKey = none)
    (storesNone : ∀ occurrence ∈ machine.trace service inputs, ¬ Stores occurrence stateKey) :
    (machine.run service inputs).stateStore.lookup stateKey = none := by
  induction inputs generalizing service with
  | nil => exact absent
  | cons input inputs ih =>
      rw [Machine.trace, List.forall_mem_cons] at storesNone
      exact ih _ (step_adds_none service input stateKey absent storesNone.1) storesNone.2

theorem admitted_once (service : OidcService) (inputs : List Input) (past between later : List Event) (first next : Event)
    (stateKey : String) (split : machine.trace service inputs = past ++ first :: (between ++ next :: later))
    (takes : Proceeds first stateKey) (again : Proceeds next stateKey) : ∃ stored ∈ between, Stores stored stateKey := by
  by_contra storesNone
  have none_stores : ∀ stored ∈ between, ¬ Stores stored stateKey := fun stored member stores =>
    storesNone ⟨stored, member, stores⟩
  obtain ⟨before, input, after, _, _, rfl, rest⟩ := Machine.trace_split machine service inputs past _ first split
  obtain ⟨middle, second, last, _, betweenEq, rfl, _⟩ := Machine.trace_split machine _ after between later next rest.symm
  rw [Machine.run_snoc] at betweenEq again
  obtain ⟨code, state, now, exchange, pending, isInput, _⟩ := takes
  change input = .callback stateKey code state now exchange at isInput
  subst input
  have absent : (machine.step (machine.run service before) (.callback stateKey code state now exchange)).1.stateStore.lookup
      stateKey = none := by
    refine (lookup_callback stateKey code state stateKey now exchange _).trans ?_
    rw [if_pos rfl]
  have stillAbsent := run_adds_none _ middle stateKey absent (betweenEq ▸ none_stores)
  obtain ⟨_, otherState, otherNow, _, found, _, admits⟩ := again
  have present := ((admitted_iff stateKey otherState otherNow _ found).mp admits).1
  exact absurd (stillAbsent.symm.trans present) (by simp)

end Gate

theorem callback_gate_iff (service : OidcService) (inputs : List Input) :
    CallbackGate (machine.trace service inputs) ↔ ∀ occurrence ∈ machine.trace service inputs, InTimeAndWhole occurrence := by
  constructor
  · intro gate occurrence member
    exact (admits_exactly_iff occurrence).mp (gate.checked occurrence member)
  · intro strict
    refine ⟨fun occurrence member => (admits_exactly_iff occurrence).mpr (strict occurrence member), ?_⟩
    intro past first between next later stateKey split takes again
    exact admitted_once service inputs past between later first next stateKey split takes again

-- Five minutes and 59 seconds after it began, with something after a dot that nobody issued.
def lateAndDotted : List Input :=
  [.startLogin "github" (.ok ⟨"k1", "https://github.com/login/oauth/authorize", "s3cret", "verifier", "nonce"⟩) 0,
    .callback "k1" "code" "s3cret.other" (5 * minute + 59 * second) fun _ _ => .ok ⟨"583231", "octocat", none, "Octocat"⟩]

def githubOnly : OidcService :=
  { providers := ["github"], stateStore := ∅ }

theorem late_and_dotted_admitted :
    (admitted "k1" "s3cret.other" (5 * minute + 59 * second) (machine.run githubOnly (lateAndDotted.take 1))).isSome = true ∧
      ¬ CallbackGate (machine.trace githubOnly lateAndDotted) := by
  refine ⟨by decide, fun gate => ?_⟩
  have checked := gate.checked _ (List.mem_cons_of_mem _ List.mem_cons_self)
  have admits : admitted "k1" "s3cret.other" (5 * minute + 59 * second) (machine.run githubOnly (lateAndDotted.take 1)) =
      some ⟨"github", "verifier", none, "s3cret", 0⟩ := by decide
  have whole := (checked "k1" _ _ _ _ _ rfl admits).2.2
  exact absurd whole (by decide)

end OidcService

end Moxui.Auth
