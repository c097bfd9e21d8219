import Mathlib.Logic.Relation
import Moxui.Auth.PasskeySafety

set_option autoImplicit false

namespace Moxui.Auth

def Hands (step : PasskeyStep) (kind : Ceremony) (userId pending : String) : Prop :=
  step.call.removes = some (kind, userId) ∧ (step.before.pending kind).lookup userId = some pending

def Stores (step : PasskeyStep) (kind : Ceremony) (userId pending : String) : Prop :=
  step.call.stores = some (kind, userId, pending)

def Touches (step : PasskeyStep) (kind : Ceremony) (userId : String) : Prop :=
  step.call.removes = some (kind, userId) ∨ ∃ pending, Stores step kind userId pending

-- A start call of this kind for this user has stored the state, and since then no call of this
-- kind for this user has stored or taken one.
def Outstanding (past : List PasskeyStep) (kind : Ceremony) (userId pending : String) : Prop :=
  ∃ before stored between, past = before ++ stored :: between ∧ Stores stored kind userId pending ∧
    ∀ step ∈ between, ¬ Touches step kind userId

structure SingleUse (steps : List PasskeyStep) : Prop where
  standing : ∀ past step later, steps = past ++ step :: later →
    ∀ kind userId pending, Hands step kind userId pending → Outstanding past kind userId pending
  once : ∀ past first between second later, steps = past ++ first :: between ++ second :: later →
    ∀ kind userId pending other, Hands first kind userId pending → Hands second kind userId other →
      ∃ stored ∈ between, Stores stored kind userId other

section Outstanding

theorem split_snoc {α : Type} (whole before later : List α) (last chosen : α)
    (split : whole ++ [last] = before ++ chosen :: later) :
    (whole = before ∧ last = chosen) ∨ ∃ rest, whole = before ++ chosen :: rest := by
  cases later using List.reverseRecOn with
  | nil =>
      obtain ⟨same, equal⟩ := List.append_inj' split rfl
      exact Or.inl ⟨same, (List.cons.inj equal).1⟩
  | append_singleton rest final =>
      rw [← List.cons_append, ← List.append_assoc] at split
      exact Or.inr ⟨rest, (List.append_inj' split rfl).1⟩

theorem standing_stored (past : List PasskeyStep) (step : PasskeyStep) (kind : Ceremony) (userId pending : String)
    (stores : Stores step kind userId pending) : Outstanding (past ++ [step]) kind userId pending :=
  ⟨past, step, [], rfl, stores, by simp⟩

theorem standing_kept (past : List PasskeyStep) (step : PasskeyStep) (kind : Ceremony) (userId pending : String)
    (standing : Outstanding past kind userId pending) (untouched : ¬ Touches step kind userId) :
    Outstanding (past ++ [step]) kind userId pending := by
  obtain ⟨before, stored, between, split, stores, quiet⟩ := standing
  refine ⟨before, stored, between ++ [step], ?_, stores, ?_⟩
  · rw [split, List.append_assoc, List.cons_append]
  · intro other member
    rcases List.mem_append.mp member with inside | isLast
    · exact quiet other inside
    · rw [List.mem_singleton.mp isLast]
      exact untouched

theorem store_removes_nothing (step : PasskeyStep) (kind another : Ceremony) (userId owner pending : String)
    (stores : Stores step kind userId pending) : step.call.removes ≠ some (another, owner) := by
  unfold Stores at stores
  cases call : step.call with
  | entered request =>
      rw [call] at stores
      cases stores
  | storeRegState _ _ _ | pushPasskey _ _ | storeAuthState _ _ _ | takeCredentials _ _ | putCredentials _ _ _ =>
      simp [PasskeyCall.removes]

theorem once_of_standing (steps : List PasskeyStep)
    (standing : ∀ past step later, steps = past ++ step :: later →
      ∀ kind userId pending, Hands step kind userId pending → Outstanding past kind userId pending)
    (past : List PasskeyStep) (first : PasskeyStep) (between : List PasskeyStep) (second : PasskeyStep)
    (later : List PasskeyStep) (split : steps = past ++ first :: between ++ second :: later) (kind : Ceremony)
    (userId pending other : String) (firstHands : Hands first kind userId pending)
    (secondHands : Hands second kind userId other) : ∃ stored ∈ between, Stores stored kind userId other := by
  obtain ⟨before, stored, since, pastEq, stores, quiet⟩ := standing _ second later split kind userId other secondHands
  have notFirst : first ≠ stored := by
    intro same
    subst same
    exact store_removes_nothing first kind kind userId userId other stores firstHands.1
  rcases List.append_eq_append_iff.mp pastEq with ⟨gap, _, gapEq⟩ | ⟨gap, _, gapEq⟩
  · cases gap with
    | nil => exact absurd (List.cons.inj gapEq).1 notFirst
    | cons step rest =>
        have inside := (List.cons.inj gapEq).2
        exact ⟨stored, by rw [inside]; simp, stores⟩
  · cases gap with
    | nil => exact absurd (List.cons.inj gapEq).1.symm notFirst
    | cons step rest =>
        have inside := (List.cons.inj gapEq).2
        exact absurd (Or.inl firstHands.1) (quiet first (by rw [inside]; simp))

end Outstanding

section Ceremonies

variable (update : Passkey → AuthenticationResult → Passkey)

def Verified (step : PasskeyStep) (userId : String) (result : AuthenticationResult) : Prop :=
  ∃ pending, Hands step .authentication userId pending ∧ step.heard.finishAuthentication pending = .ok result

def Updated (steps : List PasskeyStep) (userId : String) : Passkey → Passkey → Prop :=
  Relation.ReflTransGen fun before after =>
    ∃ step ∈ steps, ∃ result, Verified step userId result ∧ after = WebauthnState.updateCredential update result before

def ComesFrom (Same : Passkey → Passkey → Prop) (steps : List PasskeyStep) (userId : String) (key : Passkey) : Prop :=
  ∃ step ∈ steps, ∃ passkey, registered step = some (userId, passkey) ∧ Same passkey key

-- Single use of the pending states, and the origin of the stored keys, up to what counts as the same.
structure Ceremonies (Same : List PasskeyStep → String → Passkey → Passkey → Prop) (turns : List PasskeyTurn) : Prop where
  singleUse : SingleUse ((passkeyProtocol update).steps ⟨.new, []⟩ turns)
  enrolled : ∀ userId, ∀ key ∈ ((passkeyProtocol update).machine.run ⟨.new, []⟩ turns).shared.enrolled userId,
    ComesFrom (Same ((passkeyProtocol update).steps ⟨.new, []⟩ turns) userId)
      ((passkeyProtocol update).steps ⟨.new, []⟩ turns) userId key

theorem mem_owned (userId owner : String) (mine others : List Passkey) (key : Passkey)
    (member : key ∈ if userId = owner then mine else others) : userId = owner ∧ key ∈ mine ∨ key ∈ others := by
  by_cases same : userId = owner
  · rw [if_pos same] at member
    exact Or.inl ⟨same, member⟩
  · rw [if_neg same] at member
    exact Or.inr member

theorem key_after (call : PasskeyCall) (webauthn : Webauthn) (state : WebauthnState) (userId : String) (key : Passkey)
    (there : key ∈ ((passkeyProtocol update).taken call webauthn state).after.enrolled userId ∨
      ∃ later, ((passkeyProtocol update).taken call webauthn state).left = .inl later ∧ key ∈ later.holds userId) :
    key ∈ state.enrolled userId ∨ key ∈ call.holds userId ∨
      registered ((passkeyProtocol update).taken call webauthn state) = some (userId, key) ∨
      ∃ result, call = .takeCredentials userId result ∧
        ∃ old ∈ state.enrolled userId, key = WebauthnState.updateCredential update result old := by
  cases call with
  | entered request =>
      rcases there with stored | ⟨later, left, held⟩
      · exact Or.inl (enter_enrolled request webauthn state userId ▸ stored)
      · rw [enter_holds request webauthn state later left userId] at held
        cases held
  | storeRegState owner challenge regState | storeAuthState owner challenge authState =>
      rcases there with stored | ⟨later, left, _⟩
      · exact Or.inl stored
      · cases left
  | pushPasskey owner passkey =>
      rcases there with stored | ⟨later, left, _⟩
      · simp only [Protocol.taken, passkeyProtocol, advanceCall, enrolled_inserted] at stored
        rcases mem_owned userId owner _ _ key stored with ⟨same, mine⟩ | earlier
        · subst owner
          rcases List.mem_append.mp mine with earlier | isNew
          · exact Or.inl earlier
          · rw [List.mem_singleton.mp isNew]
            exact Or.inr (Or.inr (Or.inl rfl))
        · exact Or.inl earlier
      · cases left
  | takeCredentials owner result =>
      rcases there with stored | ⟨later, left, held⟩
      · simp only [Protocol.taken, passkeyProtocol, advanceCall, enrolled_erased] at stored
        rcases mem_owned userId owner _ _ key stored with ⟨_, none⟩ | earlier
        · cases none
        · exact Or.inl earlier
      · cases left
        rcases mem_owned userId owner _ _ key held with ⟨same, mine⟩ | none
        · subst owner
          obtain ⟨old, before, isUpdated⟩ := List.mem_map.mp mine
          exact Or.inr (Or.inr (Or.inr ⟨result, rfl, old, before, isUpdated.symm⟩))
        · cases none
  | putCredentials owner result creds =>
      rcases there with stored | ⟨later, left, _⟩
      · simp only [Protocol.taken, passkeyProtocol, advanceCall, enrolled_inserted] at stored
        rcases mem_owned userId owner _ _ key stored with ⟨same, mine⟩ | earlier
        · refine Or.inr (Or.inl ?_)
          simp only [PasskeyCall.holds, same, if_true]
          exact mine
        · exact Or.inl earlier
      · cases left

theorem updated_longer (past : List PasskeyStep) (step : PasskeyStep) (userId : String) (before after : Passkey)
    (updated : Updated update past userId before after) : Updated update (past ++ [step]) userId before after := by
  refine Relation.ReflTransGen.mono ?_ _ _ updated
  rintro first second ⟨earlier, member, result, verified, same⟩
  exact ⟨earlier, List.mem_append_left _ member, result, verified, same⟩

theorem comes_from_longer (past : List PasskeyStep) (step : PasskeyStep) (userId : String) (key : Passkey)
    (origin : ComesFrom (Updated update past userId) past userId key) :
    ComesFrom (Updated update (past ++ [step]) userId) (past ++ [step]) userId key := by
  obtain ⟨earlier, member, passkey, isRegistered, updated⟩ := origin
  exact ⟨earlier, List.mem_append_left _ member, passkey, isRegistered, updated_longer update past step userId _ _ updated⟩

-- Only an authentication that the library has verified goes on to take the credentials.
theorem verified_to_take (call : PasskeyCall) (webauthn : Webauthn) (state : WebauthnState) (userId : String)
    (result : AuthenticationResult)
    (left : ((passkeyProtocol update).taken call webauthn state).left = .inl (.takeCredentials userId result)) :
    Verified ((passkeyProtocol update).taken call webauthn state) userId result := by
  cases call with
  | entered request =>
      rcases enter_left request webauthn state _ left with ⟨_, _, _, _, impossible⟩ |
        ⟨_, _, _, _, _, _, impossible⟩ | ⟨_, _, _, _, impossible⟩ | ⟨owner, pending, verdict, asked, present, verified, same⟩
      · cases impossible
      · cases impossible
      · cases impossible
      · cases same
        refine ⟨pending, ⟨?_, present⟩, verified⟩
        rw [Protocol.taken, asked]
        rfl
  | storeRegState _ _ _ | pushPasskey _ _ | storeAuthState _ _ _ | takeCredentials _ _ | putCredentials _ _ _ => cases left

structure CeremonyInv (past : List PasskeyStep) (pool : PasskeyPool) : Prop where
  standing : ∀ earlier step later, past = earlier ++ step :: later →
    ∀ kind userId pending, Hands step kind userId pending → Outstanding earlier kind userId pending
  pending : ∀ kind userId pending, (pool.shared.pending kind).lookup userId = some pending →
    Outstanding past kind userId pending
  keys : ∀ userId key, (key ∈ pool.shared.enrolled userId ∨ ∃ call ∈ pool.calls, key ∈ call.holds userId) →
    ComesFrom (Updated update past userId) past userId key
  verified : ∀ userId result, PasskeyCall.takeCredentials userId result ∈ pool.calls →
    ∃ step ∈ past, Verified step userId result

theorem ceremony_inv_entered (past : List PasskeyStep) (pool : PasskeyPool) (request : PasskeyRequest)
    (inv : CeremonyInv update past pool) :
    CeremonyInv update past { pool with calls := (passkeyProtocol update).enter request :: pool.calls } := by
  refine { standing := inv.standing, pending := inv.pending, keys := ?_, verified := ?_ }
  · intro userId key there
    apply inv.keys userId key
    rcases there with stored | ⟨call, member, held⟩
    · exact Or.inl stored
    · rcases List.mem_cons.mp member with isNew | older
      · rw [isNew] at held
        cases held
      · exact Or.inr ⟨call, older, held⟩
  · intro userId result member
    rcases List.mem_cons.mp member with isNew | older
    · cases isNew
    · exact inv.verified userId result older

theorem ceremony_inv_advanced (past : List PasskeyStep) (pool : PasskeyPool) (call : PasskeyCall) (webauthn : Webauthn)
    (rest : List PasskeyCall) (perm : pool.calls.Perm (call :: rest)) (inv : CeremonyInv update past pool) :
    CeremonyInv update (past ++ [(passkeyProtocol update).taken call webauthn pool.shared])
      ⟨((passkeyProtocol update).taken call webauthn pool.shared).after,
        Protocol.resume ((passkeyProtocol update).taken call webauthn pool.shared).left rest⟩ := by
  have isThere : call ∈ pool.calls := perm.mem_iff.mpr List.mem_cons_self
  have others (other : PasskeyCall) (member : other ∈ rest) : other ∈ pool.calls :=
    perm.mem_iff.mpr (List.mem_cons_of_mem call member)
  refine { standing := ?_, pending := ?_, keys := ?_, verified := ?_ }
  · intro earlier step later split kind userId pending hands
    rcases split_snoc past earlier later _ step split with ⟨same, isStep⟩ | ⟨between, inside⟩
    · subst same isStep
      exact inv.pending kind userId pending hands.2
    · exact inv.standing earlier step between inside kind userId pending hands
  · intro kind userId pending present
    rcases pending_after update call webauthn pool.shared kind userId pending present with stores | ⟨before, keeps, spares⟩
    · exact standing_stored past _ kind userId pending stores
    · refine standing_kept past _ kind userId pending (inv.pending kind userId pending before) ?_
      rintro (removes | ⟨other, stores⟩)
      · exact keeps removes
      · exact spares other stores
  · intro userId key there
    have before (was : key ∈ pool.shared.enrolled userId ∨ ∃ call ∈ pool.calls, key ∈ call.holds userId) :=
      comes_from_longer update past ((passkeyProtocol update).taken call webauthn pool.shared) userId key
        (inv.keys userId key was)
    have resumed := Protocol.exists_resume (fun other : PasskeyCall => key ∈ other.holds userId)
      ((passkeyProtocol update).taken call webauthn pool.shared).left rest
    rcases or_assoc.mpr (there.imp_right resumed.mp) with mine | ⟨other, waiting, held⟩
    · rcases key_after update call webauthn pool.shared userId key mine with
        stored | held | isRegistered | ⟨result, takes, old, stored, isUpdated⟩
      · exact before (Or.inl stored)
      · exact before (Or.inr ⟨call, isThere, held⟩)
      · exact ⟨_, by simp, key, isRegistered, .refl⟩
      · obtain ⟨step, member, passkey, isRegistered, updated⟩ := comes_from_longer update past
          ((passkeyProtocol update).taken call webauthn pool.shared) userId old (inv.keys userId old (Or.inl stored))
        obtain ⟨asked, earlier, verified⟩ := inv.verified userId result (takes ▸ isThere)
        exact ⟨step, member, passkey, isRegistered,
          updated.tail ⟨asked, List.mem_append_left _ earlier, result, verified, isUpdated⟩⟩
    · exact before (Or.inr ⟨other, others other waiting, held⟩)
  · intro userId result member
    rcases Protocol.in_flight_after pool.calls rest call perm _ _ member with left | waiting
    · exact ⟨_, List.mem_append_right _ List.mem_cons_self, verified_to_take update call webauthn pool.shared userId result left⟩
    · obtain ⟨step, earlier, verified⟩ := inv.verified userId result waiting
      exact ⟨step, List.mem_append_left _ earlier, verified⟩

theorem passkey_ceremonies (turns : List PasskeyTurn) : Ceremonies update (Updated update) turns := by
  have inv := (passkeyProtocol update).steps_history ⟨.new, []⟩ (fun _ => True) (CeremonyInv update)
    { standing := by simp
      pending := by
        intro kind userId pending present
        cases kind <;> cases present
      keys := by
        rintro userId key (stored | ⟨call, member, _⟩)
        · cases stored
        · cases member
      verified := by simp }
    (ceremony_inv_entered update)
    (fun past pool call webauthn rest perm _ inv => ceremony_inv_advanced update past pool call webauthn rest perm inv)
    turns (fun _ _ => trivial)
  exact { singleUse := ⟨inv.standing, once_of_standing _ inv.standing⟩
          enrolled := fun userId key stored => inv.keys userId key (Or.inl stored) }

theorem updated_cred_id (keepsId : ∀ key result, (update key result).credId = key.credId) (steps : List PasskeyStep)
    (userId : String) (before after : Passkey) (updated : Updated update steps userId before after) :
    before.credId = after.credId := by
  induction updated with
  | refl => rfl
  | tail _ last ih =>
      obtain ⟨_, _, result, _, rfl⟩ := last
      rw [ih, WebauthnState.updateCredential]
      split
      · rw [keepsId]
      · rfl

-- A passkey is known by its credential id, which an authentication leaves alone.
theorem ceremonies_by_cred_id (keepsId : ∀ key result, (update key result).credId = key.credId)
    (turns : List PasskeyTurn) : Ceremonies update (fun _ _ passkey key => passkey.credId = key.credId) turns := by
  obtain ⟨singleUse, enrolled⟩ := passkey_ceremonies update turns
  refine ⟨singleUse, ?_⟩
  intro userId key stored
  obtain ⟨step, member, passkey, isRegistered, updated⟩ := enrolled userId key stored
  exact ⟨step, member, passkey, isRegistered, updated_cred_id update keepsId _ userId passkey key updated⟩

end Ceremonies

def usingLaptop : Webauthn :=
  { agreeable with finishAuthentication := fun _ => .ok { credId := "laptop", needsUpdate := true, data := "counter 1" } }

def registeredAndUsed : List PasskeyTurn :=
  .starts (.startRegistration "u-alice") :: .advances 0 agreeable :: .advances 0 agreeable :: registering.append
    [.starts (.startAuthentication "u-alice"), .advances 0 agreeable, .advances 0 agreeable,
      .starts (.finishAuthentication "u-alice"), .advances 0 usingLaptop, .advances 0 usingLaptop, .advances 0 usingLaptop]

theorem used_key_registered :
    ((passkeyProtocol countUp).machine.run ⟨.new, []⟩ registeredAndUsed).shared.enrolled "u-alice" =
        [{ laptopKey with data := "counter 1" }] ∧
      Ceremonies countUp (fun _ _ passkey key => passkey.credId = key.credId) registeredAndUsed :=
  ⟨by decide +kernel, ceremonies_by_cred_id countUp (fun _ _ => rfl) registeredAndUsed⟩

end Moxui.Auth
