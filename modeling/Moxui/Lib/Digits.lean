import Mathlib.Algebra.Group.Nat.Defs
import Mathlib.Data.List.Basic

set_option autoImplicit false

-- Numbers written with a fixed number of digits, the first digit being the most significant one.
namespace Digits

def digitsOf (base : Nat) : Nat → Nat → List Nat
  | 0, _ => []
  | width + 1, value => digitsOf base width (value / base) ++ [value % base]

section Digits

variable (base : Nat)

@[simp] theorem length_digits_of (width value : Nat) : (digitsOf base width value).length = width := by
  induction width generalizing value with
  | zero => rfl
  | succ width ih => simp [digitsOf, ih]

theorem digits_of_zero (width : Nat) : digitsOf base width 0 = List.replicate width 0 := by
  induction width with
  | zero => rfl
  | succ width ih => rw [digitsOf, Nat.zero_div, Nat.zero_mod, ih, List.replicate_succ']

theorem digits_of_append (width more value : Nat) :
    digitsOf base (width + more) value = digitsOf base width (value / base ^ more) ++ digitsOf base more value := by
  induction more generalizing value with
  | zero => simp [digitsOf]
  | succ more ih =>
      rw [← Nat.add_assoc, digitsOf, ih, digitsOf, Nat.div_div_eq_div_mul, ← Nat.pow_succ', List.append_assoc]

theorem digits_of_mod (width value : Nat) : digitsOf base width (value % base ^ width) = digitsOf base width value := by
  induction width generalizing value with
  | zero => rfl
  | succ width ih =>
      have high : value % base ^ (width + 1) / base = value / base % base ^ width := by
        rw [Nat.pow_succ', Nat.mod_mul_right_div_self]
      have low : value % base ^ (width + 1) % base = value % base :=
        Nat.mod_mod_of_dvd value (Nat.dvd_mul_left base (base ^ width))
      rw [digitsOf, high, low, ih, digitsOf]

theorem digits_of_mod_le (width more value : Nat) (within : width ≤ more) :
    digitsOf base width (value % base ^ more) = digitsOf base width value := by
  rw [← digits_of_mod base width (value % base ^ more), Nat.mod_mod_of_dvd value (Nat.pow_dvd_pow base within),
    digits_of_mod]

theorem digits_of_join (width more high low : Nat) (small : low < base ^ more) :
    digitsOf base (width + more) (high * base ^ more + low) = digitsOf base width high ++ digitsOf base more low := by
  have positive : 0 < base ^ more := Nat.lt_of_le_of_lt (Nat.zero_le low) small
  have upper : (high * base ^ more + low) / base ^ more = high := by
    rw [Nat.mul_comm, Nat.mul_add_div positive, Nat.div_eq_of_lt small, Nat.add_zero]
  have lower : (high * base ^ more + low) % base ^ more = low := by
    rw [Nat.mul_comm, Nat.mul_add_mod, Nat.mod_eq_of_lt small]
  rw [digits_of_append, upper, ← digits_of_mod base more (high * base ^ more + low), lower]

theorem digits_of_injective (width value other : Nat) (small : value < base ^ width) (bounded : other < base ^ width)
    (same : digitsOf base width value = digitsOf base width other) : value = other := by
  induction width generalizing value other with
  | zero =>
      rw [Nat.pow_zero] at small bounded
      omega
  | succ width ih =>
      obtain ⟨high, low⟩ := List.append_inj' same rfl
      rw [Nat.pow_succ'] at small bounded
      have upper := ih (value / base) (other / base) (Nat.div_lt_of_lt_mul small) (Nat.div_lt_of_lt_mul bounded) high
      have lower : value % base = other % base := by simpa using low
      rw [← Nat.div_add_mod value base, ← Nat.div_add_mod other base, upper, lower]

end Digits

theorem padded_to_digits (base width value : Nat) (radix : 1 < base) (small : value < base ^ width) (positive : 0 < width) :
    List.replicate (width - (Nat.toDigits base value).length) '0' ++ Nat.toDigits base value =
      (digitsOf base width value).map Nat.digitChar := by
  induction width generalizing value with
  | zero => omega
  | succ width ih =>
      rw [Nat.toDigits_eq_if radix]
      by_cases single : value < base
      · have digit : digitsOf base (width + 1) value = List.replicate width 0 ++ [value] := by
          rw [digitsOf, Nat.div_eq_of_lt single, digits_of_zero, Nat.mod_eq_of_lt single]
        rw [if_pos single, digit]
        simp
      · have rest : value / base < base ^ width := Nat.div_lt_of_lt_mul (by rwa [← Nat.pow_succ'])
        have wide : 0 < width := by
          rcases Nat.eq_zero_or_pos width with rfl | more
          · rw [Nat.pow_one] at small
            omega
          · exact more
        have length : ∀ digits : List Char, width + 1 - (digits ++ [Nat.digitChar (value % base)]).length =
            width - digits.length := by
          intro digits
          rw [List.length_append, List.length_singleton]
          omega
        rw [if_neg single, length, ← List.append_assoc, ih (value / base) rest wide, digitsOf, List.map_append]
        rfl

theorem flat_map_injective {α β : Type} (width : Nat) (positive : 0 < width) (write : α → List β)
    (length : ∀ item, (write item).length = width) (injective : ∀ item other, write item = write other → item = other)
    (items others : List α) (same : items.flatMap write = others.flatMap write) : items = others := by
  induction items generalizing others with
  | nil =>
      cases others with
      | nil => rfl
      | cons other others =>
          have lengths := congrArg List.length same
          simp only [List.flatMap_nil, List.flatMap_cons, List.length_nil, List.length_append, length] at lengths
          omega
  | cons item items ih =>
      cases others with
      | nil =>
          have lengths := congrArg List.length same
          simp only [List.flatMap_nil, List.flatMap_cons, List.length_nil, List.length_append, length] at lengths
          omega
      | cons other others =>
          rw [List.flatMap_cons, List.flatMap_cons] at same
          obtain ⟨head, tail⟩ := List.append_inj same (by rw [length, length])
          rw [injective item other head, ih others tail]

theorem length_flat_map {α β : Type} (width : Nat) (write : α → List β) (length : ∀ item, (write item).length = width)
    (items : List α) : (items.flatMap write).length = width * items.length := by
  induction items with
  | nil => simp
  | cons item items ih =>
      rw [List.flatMap_cons, List.length_append, length, ih, List.length_cons, Nat.mul_succ, Nat.add_comm]

end Digits
