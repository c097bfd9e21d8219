import Moxui.Lib.Keyed
import Mathlib.Tactic.Ring

set_option autoImplicit false

namespace Moxui.Security

-- `Uuid::from_bytes` takes any sixteen bytes.
abbrev Uuid : Type :=
  Vector UInt8 16

def Uuid.nil : Uuid :=
  Vector.replicate 16 0

inductive IpAddr where
  | v4 (a b c d : UInt8)
  | v6 (octets : Vector UInt8 16)
deriving DecidableEq

structure SocketAddr where
  ip : IpAddr
  port : UInt16
deriving DecidableEq

def keyFromAddr (addr : SocketAddr) : Uuid :=
  match addr.ip with
  | .v4 a b c d =>
      #v[a, b, c, d, (addr.port >>> 8).toUInt8, addr.port.toUInt8, 4, 0, 0, 0, 0, 0, 0, 0, 0, 0]
  | .v6 octets => octets

structure RateLimitConfig where
  requestsPerSecond : UInt64
  burstSize : UInt32

def RateLimitConfig.standard : RateLimitConfig :=
  { requestsPerSecond := 5, burstSize := 10 }

structure Quota where
  perSecond : UInt32
  burst : UInt32
  perSecondNonZero : perSecond ≠ 0
  burstNonZero : burst ≠ 0

-- `IpRateLimiter::new` unwraps what is zero, and then there is no server.
def RateLimitConfig.quota (config : RateLimitConfig) : Option Quota :=
  let perSecond := if config.requestsPerSecond.toNat < UInt32.size then config.requestsPerSecond.toUInt32 else 4294967295
  if rate : perSecond = 0 then none
  else if burst : config.burstSize = 0 then none
  else some ⟨perSecond, config.burstSize, rate, burst⟩

structure Check where
  clientKey : Uuid
  now : Nat

-- The limiter of one key: its state, that of a key never seen, and what a check at some time
-- makes of it.
structure Governor where
  Cell : Type
  fresh : Cell
  test : Quota → Nat → Cell → Cell × Bool

section Limiter

variable (governor : Governor) (quota : Quota)

def Governor.cell : Machine governor.Cell Check Bool where
  step cell check := governor.test quota check.now cell

-- `check_key`, one check after the other.
def Governor.keyed : Machine (Table Uuid governor.Cell) Check Bool :=
  Keyed.machine (governor.cell quota) governor.fresh Check.clientKey

-- A key never seen has its burst at one time, and no more than that.
structure Governor.Bursts : Prop where
  burst : ∀ check checks,
    ((governor.cell quota).step ((governor.cell quota).run governor.fresh (List.replicate checks check)) check).2 = true ↔
      checks < quota.burst.toNat

end Limiter

-- `RateLimitService::call`: requests without connect info share the key of nobody.
def clientKey (connectInfo : Option SocketAddr) : Uuid :=
  match connectInfo with
  | some addr => keyFromAddr addr
  | none => Uuid.nil

theorem checks_of_one_key (governor : Governor) (quota : Quota) (bursts : governor.Bursts quota) (check : Check)
    (checks : Nat) :
    ((governor.keyed quota).step ((governor.keyed quota).run ∅ (List.replicate checks check)) check).2 = true ↔
      checks < quota.burst.toNat := by
  have everyCheck : Keyed.ofKey Check.clientKey check.clientKey (List.replicate checks check) =
      List.replicate checks check := by
    refine List.filter_eq_self.mpr ?_
    intro other member
    rw [List.eq_of_mem_replicate member, decide_eq_true_eq]
  rw [Governor.keyed, Keyed.output_run, everyCheck]
  exact bursts.burst check checks

-- The generic cell rate algorithm, in nanoseconds.
section CellRate

def Quota.interval (quota : Quota) : Nat :=
  1000000000 / quota.perSecond.toNat

def Quota.theoreticalArrival (quota : Quota) (cell : Option Nat) (now : Nat) : Nat :=
  cell.getD (now + quota.interval)

def Quota.test (quota : Quota) (now : Nat) (cell : Option Nat) : Option Nat × Bool :=
  let arrival := quota.theoreticalArrival cell now
  if now < arrival - quota.interval * quota.burst.toNat then (cell, false)
  else (some (max arrival now + quota.interval), true)

def cellRate : Governor :=
  { Cell := Option Nat, fresh := none, test := Quota.test }

def Quota.cell (quota : Quota) : Machine (Option Nat) Check Bool :=
  cellRate.cell quota

variable (quota : Quota)

theorem over_burst_iff (replenishes : 0 < quota.interval) (now ahead : Nat) :
    now < now + (ahead + 1) * quota.interval - quota.interval * quota.burst.toNat ↔ quota.burst.toNat ≤ ahead := by
  have scaled : quota.interval * quota.burst.toNat < quota.interval * (ahead + 1) ↔ quota.burst.toNat < ahead + 1 :=
    Nat.mul_lt_mul_left replenishes
  have commuted : (ahead + 1) * quota.interval = quota.interval * (ahead + 1) := Nat.mul_comm _ _
  omega

theorem cell_step (check : Check) (cell : Option Nat) :
    quota.cell.step cell check = quota.test check.now cell := rfl

theorem arrival_after (replenishes : 0 < quota.interval) (check : Check) (checks : Nat) :
    quota.theoreticalArrival (quota.cell.run none (List.replicate checks check)) check.now =
      check.now + (min checks quota.burst.toNat + 1) * quota.interval := by
  induction checks with
  | zero => simp [Quota.theoreticalArrival]
  | succ checks ih =>
      rw [List.replicate_succ', Machine.run_snoc, cell_step, Quota.test, ih]
      by_cases spent : quota.burst.toNat ≤ checks
      · have sameMin : min (checks + 1) quota.burst.toNat = min checks quota.burst.toNat := by omega
        have beyond := (over_burst_iff quota replenishes check.now _).mpr (le_min spent le_rfl)
        simp only [beyond, if_true, ih, sameMin]
      · have nextMin : min (checks + 1) quota.burst.toNat = min checks quota.burst.toNat + 1 := by omega
        have inside : ¬ quota.burst.toNat ≤ min checks quota.burst.toNat := by omega
        have later : check.now ≤ check.now + (min checks quota.burst.toNat + 1) * quota.interval := Nat.le_add_right _ _
        simp only [(over_burst_iff quota replenishes check.now _).not.mpr inside, if_false, Quota.theoreticalArrival,
          Option.getD_some, Nat.max_eq_left later, nextMin]
        ring

theorem cell_rate_bursts (replenishes : 0 < quota.interval) : cellRate.Bursts quota := by
  refine ⟨?_⟩
  intro check checks
  change (quota.cell.step (quota.cell.run none (List.replicate checks check)) check).2 = true ↔ checks < quota.burst.toNat
  rw [cell_step, Quota.test, arrival_after quota replenishes check checks]
  by_cases spent : quota.burst.toNat ≤ checks
  · have beyond := (over_burst_iff quota replenishes check.now _).mpr (le_min spent le_rfl)
    simp only [beyond, if_true, Bool.false_eq_true, false_iff, not_lt]
    exact spent
  · have inside : ¬ quota.burst.toNat ≤ min checks quota.burst.toNat := by omega
    simp only [(over_burst_iff quota replenishes check.now _).not.mpr inside, if_false, true_iff]
    exact not_le.mp spent

end CellRate

end Moxui.Security
