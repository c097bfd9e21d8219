import Mathlib.Algebra.Group.Nat.Defs
import Mathlib.Data.Nat.Basic

set_option autoImplicit false

-- What becomes of an integer that is turned into a double and printed again.
namespace Doubles

-- The distance between the doubles of this size, if they are not closer than one.
def spacing (value : Nat) : Nat := 2 ^ (value.log2 + 1 - 53)

-- The double next to an integer; of two that are as near, the one with an even mantissa.
def nearest (value : Nat) : Nat :=
  let unit := spacing value
  let below := value / unit
  let rest := value % unit
  if unit < 2 * rest ∨ (2 * rest = unit ∧ below % 2 = 1) then (below + 1) * unit else below * unit

-- The fewest digits that read back as the double, padded with zeros: a multiple of the
-- largest power of ten that does, the nearer of two.
def shortest (double : Nat) : Nat → Nat
  | 0 => double
  | places + 1 =>
      let unit := 10 ^ (places + 1)
      let low := double / unit * unit
      let high := low + unit
      if nearest low = double ∧ nearest high = double then (if unit ≤ 2 * (double - low) then high else low)
      else if nearest low = double then low
      else if nearest high = double then high
      else shortest double places

-- No 64-bit integer has more than twenty digits.
def printed (value : Nat) : Nat := shortest (nearest value) 20

def printedInt : Int → Int
  | .ofNat value => .ofNat (printed value)
  | .negSucc below => - .ofNat (printed (below + 1))

theorem spacing_small (value : Nat) (small : value < 2 ^ 53) : spacing value = 1 := by
  by_cases zero : value = 0
  · subst zero
    decide
  · have bits : value.log2 < 53 := (Nat.log2_lt zero).mpr small
    have none : value.log2 + 1 - 53 = 0 := by omega
    rw [spacing, none, Nat.pow_zero]

theorem nearest_small (value : Nat) (small : value < 2 ^ 53) : nearest value = value := by
  simp only [nearest, spacing_small value small]
  rw [if_neg (by omega), Nat.div_one, Nat.mul_one]

theorem nearest_large (value : Nat) (large : 2 ^ 53 ≤ value) : 2 ^ 53 ≤ nearest value := by
  have some : value ≠ 0 := by
    intro zero
    rw [zero] at large
    exact absurd large (by decide)
  have bits : 53 ≤ value.log2 := (Nat.le_log2 some).mpr large
  have size : 2 ^ value.log2 = 2 ^ 52 * spacing value := by
    rw [spacing, ← Nat.pow_add]
    exact congrArg (2 ^ ·) (by omega)
  have positive : 0 < spacing value := Nat.two_pow_pos _
  have mantissa : 2 ^ 52 ≤ value / spacing value := by
    apply (Nat.le_div_iff_mul_le positive).mpr
    rw [← size]
    exact Nat.log2_self_le some
  have below : 2 ^ 53 ≤ value / spacing value * spacing value := by
    calc
      2 ^ 53 ≤ 2 ^ value.log2 := Nat.pow_le_pow_right (by decide) bits
      _ = 2 ^ 52 * spacing value := size
      _ ≤ value / spacing value * spacing value := Nat.mul_le_mul_right _ mantissa
  simp only [nearest]
  split
  · rw [Nat.succ_mul]
    omega
  · exact below

theorem nearest_eq_small (value double : Nat) (small : double < 2 ^ 53) (same : nearest value = double) :
    value = double := by
  by_cases under : value < 2 ^ 53
  · rw [← same, nearest_small value under]
  · have large := nearest_large value (by omega)
    omega

theorem shortest_small (double places : Nat) (small : double < 2 ^ 53) : shortest double places = double := by
  induction places with
  | zero => rfl
  | succ places ih =>
      have positive : 0 < 10 ^ (places + 1) := Nat.pow_pos (by decide)
      have low := Nat.div_mul_le_self double (10 ^ (places + 1))
      have high : double < double / 10 ^ (places + 1) * 10 ^ (places + 1) + 10 ^ (places + 1) := by
        have split := Nat.div_add_mod double (10 ^ (places + 1))
        have rest := Nat.mod_lt double positive
        rw [Nat.mul_comm] at split
        omega
      -- Above the double nothing reads back as it.
      have above : ¬ nearest (double / 10 ^ (places + 1) * 10 ^ (places + 1) + 10 ^ (places + 1)) = double := by
        intro same
        have alike := nearest_eq_small _ double small same
        omega
      simp only [shortest, above, and_false, if_false]
      split
      · rename_i same
        exact nearest_eq_small _ double small same
      · exact ih

theorem printed_small (value : Nat) (small : value < 2 ^ 53) : printed value = value := by
  rw [printed, nearest_small value small, shortest_small value 20 small]

theorem printed_int_small (value : Int) (small : value.natAbs < 2 ^ 53) : printedInt value = value := by
  cases value with
  | ofNat value => rw [printedInt, printed_small value small]
  | negSucc below =>
      rw [printedInt, printed_small (below + 1) small]
      rfl

end Doubles
