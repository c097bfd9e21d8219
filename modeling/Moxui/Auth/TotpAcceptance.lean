import Moxui.Auth.Totp
import Moxui.Lib.Digits

set_option autoImplicit false

namespace Moxui.Auth

namespace Totp

-- `compute_totp` indexes a slice; an index out of range gives nothing here.
def truncateIndexed (result : List UInt8) : Option UInt32 := do
  let last ← result[19]?
  let offset := (last &&& 0x0f).toNat
  let first ← result[offset]?
  let second ← result[offset + 1]?
  let third ← result[offset + 2]?
  let fourth ← result[offset + 3]?
  return (first.toUInt32 &&& 0x7f) <<< 24 ||| second.toUInt32 <<< 16 ||| third.toUInt32 <<< 8 ||| fourth.toUInt32

-- RFC 4226 in numbers: the message, the value at the dynamic offset and its last six digits.
def counterBytes (counter : Nat) : List UInt8 :=
  (Digits.digitsOf 256 8 counter).map UInt8.ofNat

def digestByte (digest : Fin 20 → UInt8) (index : Nat) : Nat :=
  if inside : index < 20 then (digest ⟨index, inside⟩).toNat else 0

def dynamicValue (digest : Fin 20 → UInt8) : Nat :=
  let offset := digestByte digest 19 % 16
  digestByte digest offset % 128 * 2 ^ 24 + digestByte digest (offset + 1) * 2 ^ 16 +
    digestByte digest (offset + 2) * 2 ^ 8 + digestByte digest (offset + 3)

def sixDigitCode (value : Nat) : String :=
  String.ofList ((Digits.digitsOf 10 6 (value % 1000000)).map Nat.digitChar)

end Totp

open Totp

theorem be_bytes_counter (counter : Nat) : beBytes (UInt64.ofNat counter) = counterBytes counter := by
  simp only [beBytes, counterBytes, Digits.digitsOf, List.map_cons, List.map_nil, List.nil_append, List.cons_append,
    List.cons.injEq, and_true]
  refine ⟨?_, ?_, ?_, ?_, ?_, ?_, ?_, ?_⟩
  all_goals
    apply UInt8.toNat_inj.mp
    simp only [UInt64.toNat_toUInt8, UInt64.toNat_shiftRight, UInt64.toNat_ofNat', UInt8.toNat_ofNat',
      Nat.shiftRight_eq_div_pow, UInt64.reduceToNat, Nat.reduceMod, Nat.reducePow]
    omega

theorem six_digits_code (value : Nat) : sixDigits (value % 1000000) = sixDigitCode value := by
  have padded := Digits.padded_to_digits 10 6 (value % 1000000) (by decide) (Nat.mod_lt value (by decide)) (by decide)
  have length : (toString (value % 1000000)).length = (Nat.toDigits 10 (value % 1000000)).length := by
    rw [Nat.toString_eq_repr, ← String.length_toList, Nat.toList_repr]
  apply String.toList_inj.mp
  simp only [sixDigits, String.toList_append, String.toList_ofList, length]
  rw [Nat.toString_eq_repr, Nat.toList_repr, padded, sixDigitCode, String.toList_ofList]

theorem joined_bytes (first second third fourth : Nat) (secondSmall : second < 256) (thirdSmall : third < 256)
    (fourthSmall : fourth < 256) :
    first <<< 24 ||| second <<< 16 ||| third <<< 8 ||| fourth =
      first * 2 ^ 24 + second * 2 ^ 16 + third * 2 ^ 8 + fourth := by
  have two : first <<< 24 ||| second <<< 16 = (first <<< 8 + second) <<< 16 := by
    rw [Nat.shiftLeft_add_eq_or_of_lt (i := 8) secondSmall, Nat.shiftLeft_or_distrib, ← Nat.shiftLeft_add]
  have three : (first <<< 8 + second) <<< 16 ||| third <<< 8 = ((first <<< 8 + second) <<< 8 + third) <<< 8 := by
    rw [Nat.shiftLeft_add_eq_or_of_lt (i := 8) thirdSmall, Nat.shiftLeft_or_distrib, ← Nat.shiftLeft_add]
  rw [two, three, ← Nat.shiftLeft_add_eq_or_of_lt (i := 8) fourthSmall]
  simp only [Nat.shiftLeft_eq]
  omega

theorem packed_bytes (first second third fourth : UInt8) :
    ((first.toUInt32 &&& 0x7f) <<< 24 ||| second.toUInt32 <<< 16 ||| third.toUInt32 <<< 8 ||| fourth.toUInt32).toNat =
      first.toNat % 128 * 2 ^ 24 + second.toNat * 2 ^ 16 + third.toNat * 2 ^ 8 + fourth.toNat := by
  have secondSmall := second.toNat_lt
  have thirdSmall := third.toNat_lt
  have masked : first.toNat &&& 127 = first.toNat % 128 := Nat.and_two_pow_sub_one_eq_mod first.toNat 7
  have fits : ∀ value shift : Nat, value * 2 ^ shift < 2 ^ 32 → value <<< shift % 2 ^ 32 = value <<< shift := by
    intro value shift small
    rw [Nat.shiftLeft_eq, Nat.mod_eq_of_lt small]
  simp only [UInt32.toNat_or, UInt32.toNat_shiftLeft, UInt32.toNat_and, UInt8.toNat_toUInt32, UInt32.reduceToNat,
    Nat.reduceMod, masked]
  rw [fits _ 24 (by omega), fits _ 16 (by omega), fits _ 8 (by omega)]
  exact joined_bytes _ _ _ _ secondSmall thirdSmall fourth.toNat_lt

theorem truncate_value (digest : Fin 20 → UInt8) : (truncate digest).toNat = dynamicValue digest := by
  have offset : digestByte digest 19 % 16 = (digest 19 &&& 0x0f).toNat := by
    rw [UInt8.toNat_and]
    exact (Nat.and_two_pow_sub_one_eq_mod (digest 19).toNat 4).symm
  have byte : ∀ step (small : step < 4), digestByte digest ((digest 19 &&& 0x0f).toNat + step) =
      (digest ⟨(digest 19 &&& 0x0f).toNat + step, truncation_offset_lt digest step small⟩).toNat := by
    intro step small
    exact dif_pos (truncation_offset_lt digest step small)
  have first : digestByte digest (digest 19 &&& 0x0f).toNat =
      (digest ⟨(digest 19 &&& 0x0f).toNat + 0, truncation_offset_lt digest 0 (by decide)⟩).toNat := byte 0 (by decide)
  simp only [dynamicValue, offset]
  rw [first, byte 1 (by decide), byte 2 (by decide), byte 3 (by decide)]
  exact packed_bytes _ _ _ _

theorem truncate_indexed (digest : Fin 20 → UInt8) : truncateIndexed (List.ofFn digest) = some (truncate digest) := by
  have read : ∀ index (inside : index < 20), (List.ofFn digest)[index]? = some (digest ⟨index, inside⟩) := by
    intro index inside
    rw [List.getElem?_ofFn, dif_pos inside]
  have last : (List.ofFn digest)[19]? = some (digest 19) := read 19 (by decide)
  have first : (List.ofFn digest)[(digest 19 &&& 0x0f).toNat]? =
      some (digest ⟨(digest 19 &&& 0x0f).toNat + 0, truncation_offset_lt digest 0 (by decide)⟩) :=
    read _ (truncation_offset_lt digest 0 (by decide))
  simp only [truncateIndexed, last, first, Option.bind_eq_bind, Option.bind_some,
    read _ (truncation_offset_lt digest 1 (by decide)), read _ (truncation_offset_lt digest 2 (by decide)),
    read _ (truncation_offset_lt digest 3 (by decide))]
  rfl

theorem compute_totp_code (hmacSha1 : HmacSha1) (secret : List UInt8) (counter : Nat) :
    computeTotp hmacSha1 secret (UInt64.ofNat counter) =
      sixDigitCode (dynamicValue (hmacSha1 secret (counterBytes counter))) := by
  rw [computeTotp, be_bytes_counter, truncate_value, six_digits_code]

theorem mem_window_iff (now counter : Nat) : counter ∈ window now ↔ counter ≤ now / 30 + 1 ∧ now / 30 ≤ counter + 1 := by
  simp only [window, List.mem_range'_1]
  omega

theorem verify_totp_iff (hmacSha1 : HmacSha1) (now : Nat) (secretB32 code : String) :
    (verifyTotp hmacSha1 now secretB32 code = true ↔
      ∃ secret counter, base32Decode secretB32 = some secret ∧ counter ≤ now / 30 + 1 ∧ now / 30 ≤ counter + 1 ∧
        code = sixDigitCode (dynamicValue (hmacSha1 secret (counterBytes counter)))) ∧
    ∀ secret message, truncateIndexed (List.ofFn (hmacSha1 secret message)) = some (truncate (hmacSha1 secret message)) := by
  refine ⟨?_, fun secret message => truncate_indexed (hmacSha1 secret message)⟩
  cases decoded : base32Decode secretB32 with
  | none => simp [verifyTotp, decoded]
  | some secret =>
      simp only [verifyTotp, decoded, List.any_eq_true, beq_iff_eq, compute_totp_code, mem_window_iff]
      constructor
      · intro ⟨counter, ⟨newest, oldest⟩, shown⟩
        exact ⟨secret, counter, rfl, newest, oldest, shown.symm⟩
      · intro ⟨_, counter, same, newest, oldest, shown⟩
        cases same
        exact ⟨counter, ⟨newest, oldest⟩, shown.symm⟩

end Moxui.Auth
