import Moxui.Api.VncSessions
import Moxui.Lib.Interleaving

set_option autoImplicit false

namespace Moxui.Api

-- `try_acquire` between two accesses to the counter, and then the guard that it has returned.
inductive LimiterCall where
  | loading
  | exchanging (cur : UInt32)
  | guarding
deriving DecidableEq, Repr

inductive LimiterResult where
  | refused
  | released
deriving DecidableEq, Repr

-- One access: `load`, `compare_exchange`, or the `fetch_sub` of `drop`.
def advanceLimiter (call : LimiterCall) (limiter : VncConnectionLimiter) :
    VncConnectionLimiter × (LimiterCall ⊕ LimiterResult) :=
  match call with
  | .loading =>
      let cur := limiter.used
      if cur ≥ limiter.cap then (limiter, .inr .refused) else (limiter, .inl (.exchanging cur))
  | .exchanging cur =>
      if limiter.used = cur then ({ limiter with used := cur + 1 }, .inl .guarding) else (limiter, .inl .loading)
  | .guarding => (limiter.dropGuard, .inr .released)

def limiterProtocol : Protocol VncConnectionLimiter Unit LimiterCall Unit LimiterResult :=
  { enter := fun _ => .loading, advance := fun call _ limiter => advanceLimiter call limiter }

abbrev LimiterStep : Type := Protocol.Taken VncConnectionLimiter LimiterCall Unit LimiterResult

abbrev LimiterPool : Type := Protocol.Pool VncConnectionLimiter LimiterCall

def liveGuards (pool : LimiterPool) : Nat :=
  pool.calls.count .guarding

-- The step that gives a guard is all of `try_acquire`, the counter does not wrap, and a call is
-- refused where it has loaded the cap.
structure LimiterStepSound (cap : UInt32) (step : LimiterStep) : Prop where
  acquired : step.left = .inl .guarding →
    step.before.tryAcquire = some step.after ∧ step.after.used.toNat = step.before.used.toNat + 1
  released : step.left = .inr .released →
    step.after = step.before.dropGuard ∧ step.before.used.toNat = step.after.used.toNat + 1
  refused : step.left = .inr .refused → step.call = .loading ∧ step.before.used = cap

structure LimiterSound (cap : UInt32) (past : List LimiterStep) (pool : LimiterPool) : Prop where
  unchanged : pool.shared.cap = cap
  counted : pool.shared.used.toNat = liveGuards pool
  bounded : liveGuards pool ≤ cap.toNat
  steps : ∀ step ∈ past, LimiterStepSound cap step

section Steps

theorem next_used (used cap : UInt32) (below : used < cap) : (used + 1).toNat = used.toNat + 1 := by
  have small := UInt32.lt_iff_toNat_lt.mp below
  have large := cap.toNat_lt
  rw [UInt32.toNat_add, UInt32.toNat_one]
  omega

theorem previous_used (used : UInt32) (positive : 0 < used.toNat) : used.toNat = (used - 1).toNat + 1 := by
  have large := used.toNat_lt
  rw [UInt32.toNat_sub, UInt32.toNat_one]
  omega

theorem exchange_acquires (cur : UInt32) (limiter : VncConnectionLimiter) (below : cur < limiter.cap)
    (same : limiter.used = cur) : limiter.tryAcquire = some { limiter with used := cur + 1 } := by
  rw [VncConnectionLimiter.tryAcquire, same, if_neg (UInt32.not_le.mpr below)]

end Steps

section Invariant

variable (cap : UInt32)

structure LimiterInv (past : List LimiterStep) (pool : LimiterPool) : Prop where
  sound : LimiterSound cap past pool
  loaded : ∀ cur, .exchanging cur ∈ pool.calls → cur < cap

variable {cap}

theorem limiter_inv_step {past : List LimiterStep} {pool : LimiterPool} {call : LimiterCall} {rest : List LimiterCall}
    (perm : pool.calls.Perm (call :: rest)) (inv : LimiterInv cap past pool) (after : VncConnectionLimiter)
    (left : LimiterCall ⊕ LimiterResult) (advanced : advanceLimiter call pool.shared = (after, left))
    (unchanged : after.cap = cap)
    (counted : after.used.toNat = (Protocol.resume left rest).count .guarding)
    (bounded : after.used.toNat ≤ cap.toNat)
    (sound : LimiterStepSound cap ⟨pool.shared, call, (), after, left⟩)
    (loaded : ∀ cur, left = .inl (.exchanging cur) → cur < cap) :
    LimiterInv cap (past ++ [limiterProtocol.taken call () pool.shared])
      ⟨(limiterProtocol.taken call () pool.shared).after,
        Protocol.resume (limiterProtocol.taken call () pool.shared).left rest⟩ := by
  rw [limiterProtocol.taken_of_advance call () pool.shared after left advanced]
  refine ⟨⟨unchanged, counted, Nat.le_trans (Nat.le_of_eq counted.symm) bounded, ?_⟩, ?_⟩
  · intro step member
    rcases List.mem_append.mp member with earlier | isLast
    · exact inv.sound.steps step earlier
    · rw [List.mem_singleton.mp isLast]
      exact sound
  · intro cur member
    rcases Protocol.in_flight_after pool.calls rest call perm left _ member with isLeft | waiting
    · exact loaded cur isLeft
    · exact inv.loaded cur waiting

theorem limiter_advanced {past : List LimiterStep} {pool : LimiterPool} {call : LimiterCall} {rest : List LimiterCall}
    (perm : pool.calls.Perm (call :: rest)) (inv : LimiterInv cap past pool) :
    LimiterInv cap (past ++ [limiterProtocol.taken call () pool.shared])
      ⟨(limiterProtocol.taken call () pool.shared).after,
        Protocol.resume (limiterProtocol.taken call () pool.shared).left rest⟩ := by
  have counted : pool.shared.used.toNat = (call :: rest).count .guarding :=
    inv.sound.counted.trans (perm.count_eq .guarding)
  have bounded : pool.shared.used.toNat ≤ cap.toNat := inv.sound.counted ▸ inv.sound.bounded
  have unchanged := inv.sound.unchanged
  cases call with
  | loading =>
      have others : pool.shared.used.toNat = rest.count .guarding := counted
      by_cases full : pool.shared.used ≥ pool.shared.cap
      · apply limiter_inv_step perm inv pool.shared (.inr .refused) (if_pos full) unchanged others bounded
        · have atCap : pool.shared.used = cap := by
            apply UInt32.toNat_inj.mp
            exact Nat.le_antisymm bounded (UInt32.le_iff_toNat_le.mp (unchanged ▸ full))
          exact ⟨nofun, nofun, fun _ => ⟨rfl, atCap⟩⟩
        · intro cur impossible
          cases impossible
      · apply limiter_inv_step perm inv pool.shared (.inl (.exchanging pool.shared.used)) (if_neg full) unchanged others
          bounded
        · exact ⟨nofun, nofun, nofun⟩
        · intro cur isLoaded
          cases isLoaded
          exact unchanged ▸ UInt32.not_le.mp full
  | exchanging cur =>
      have others : pool.shared.used.toNat = rest.count .guarding := counted
      have below : cur < cap := inv.loaded cur (perm.mem_iff.mpr List.mem_cons_self)
      by_cases same : pool.shared.used = cur
      · have next := next_used cur cap below
        apply limiter_inv_step perm inv { pool.shared with used := cur + 1 } (.inl .guarding) (if_pos same) unchanged
        · rw [next, ← same, others]
          exact (List.count_cons_self).symm
        · rw [next]
          exact UInt32.lt_iff_toNat_lt.mp below
        · exact ⟨fun _ => ⟨exchange_acquires cur pool.shared (unchanged ▸ below) same, same ▸ next⟩, nofun, nofun⟩
        · intro cur impossible
          cases impossible
      · apply limiter_inv_step perm inv pool.shared (.inl .loading) (if_neg same) unchanged others bounded
        · exact ⟨nofun, nofun, nofun⟩
        · intro cur impossible
          cases impossible
  | guarding =>
      rw [List.count_cons_self] at counted
      have previous := previous_used pool.shared.used (by omega)
      apply limiter_inv_step perm inv pool.shared.dropGuard (.inr .released) rfl unchanged
      · have dropped : (pool.shared.used - 1).toNat = rest.count .guarding := by omega
        exact dropped
      · have lower : (pool.shared.used - 1).toNat ≤ cap.toNat := by omega
        exact lower
      · exact ⟨nofun, fun _ => ⟨rfl, previous⟩, nofun⟩
      · intro cur impossible
        cases impossible

end Invariant

-- A limiter of its own, any number of calls, in any order of their accesses.
theorem limiter_sound (cap : UInt32) (turns : List (Protocol.Turn Unit Unit)) :
    LimiterSound cap (limiterProtocol.steps ⟨.new cap, []⟩ turns) (limiterProtocol.machine.run ⟨.new cap, []⟩ turns) := by
  have inv := limiterProtocol.steps_history ⟨.new cap, []⟩ (fun _ => True) (LimiterInv cap) ?_ ?_ ?_ turns
    fun _ _ => trivial
  · exact inv.sound
  · refine ⟨⟨rfl, rfl, Nat.zero_le _, ?_⟩, ?_⟩
    · intro step member
      cases member
    · intro cur member
      cases member
  · intro past pool request inv
    refine ⟨⟨inv.sound.unchanged, inv.sound.counted, inv.sound.bounded, inv.sound.steps⟩, ?_⟩
    intro cur member
    rcases List.mem_cons.mp member with isNew | waiting
    · cases isNew
    · exact inv.loaded cur waiting
  · intro past pool call heard rest perm _ inv
    exact limiter_advanced perm inv

end Moxui.Api
